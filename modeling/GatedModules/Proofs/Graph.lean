import GatedModules.Proofs.Activity
import GatedModules.Proofs.Lookup
import Mathlib.Data.List.Chain
import Mathlib.Data.List.Induction
import Mathlib.Logic.Relation

/-!
# The module graph

In an environment, the edges that are there make a graph of the modules. What the roots reach in it,
its cycles and its chains are told here without any walk.
-/

namespace GatedModules

open Relation

namespace Registry

/-- An edge that is there leads from a declared module to a name. -/
def Leads (r : Registry) (env : Environment) (a b : Text) : Prop :=
  ∃ m ∈ r.modules, m.name = a ∧ ∃ e ∈ m.effective env, e.name = b

instance (r : Registry) (env : Environment) (a b : Text) : Decidable (r.Leads env a b) :=
  inferInstanceAs (Decidable (∃ m ∈ r.modules, m.name = a ∧ ∃ e ∈ m.effective env, e.name = b))

/-- The names that some roots reach: the least set that has the roots and whatever an edge leads to
from a name in it. -/
inductive Reachable (r : Registry) (env : Environment) (roots : List Text) : Text → Prop
  | root {a : Text} (h : a ∈ roots) : Reachable r env roots a
  | lead {a b : Text} (h : Reachable r env roots a) (l : r.Leads env a b) : Reachable r env roots b

/-- A name from which the edges lead back to it, in one step or more. -/
def OnCycle (r : Registry) (env : Environment) (a : Text) : Prop := TransGen (r.Leads env) a a

/-- A chain of names, each led to from the one before it, that starts at a root. -/
structure ChainFrom (r : Registry) (env : Environment) (roots path : List Text) : Prop where
  root : ∃ a ∈ roots, path.head? = some a
  linked : path.IsChain (r.Leads env)

variable {r : Registry} {env : Environment} {roots : List Text}

theorem leads_iff {m : Module} (hm : m ∈ r.modules) {b : Text} :
    r.Leads env m.name b ↔ ∃ e ∈ m.effective env, e.name = b := by
  constructor
  · rintro ⟨m', hm', hname, h⟩
    rwa [eq_of_name_eq hm' hm hname] at h
  · exact fun h => ⟨m, hm, rfl, h⟩

/-! ## Cycles -/

theorem transGen_of_isChain {a b : Text} {path : List Text}
    (h : (a :: (path ++ [b])).IsChain (r.Leads env)) : TransGen (r.Leads env) a b := by
  induction path generalizing a with
  | nil => exact .single (by simpa using h)
  | cons c path ih =>
    rw [List.cons_append, List.isChain_cons_cons] at h
    exact .head h.1 (ih h.2)

theorem of_transGen {p : Text → Prop} (hp : ∀ a b, p a → r.Leads env a b → p b) {a b : Text}
    (ha : p a) (h : TransGen (r.Leads env) a b) : p b := by
  induction h with
  | single l => exact hp _ _ ha l
  | tail _ l ih => exact hp _ _ ih l

/-- What has the roots and is not led out of has all that the roots reach. -/
theorem Reachable.of_closed {p : Text → Prop} (hroots : ∀ a ∈ roots, p a)
    (hp : ∀ a b, p a → r.Leads env a b → p b) {a : Text} (h : r.Reachable env roots a) : p a := by
  induction h with
  | root h => exact hroots _ h
  | lead _ l ih => exact hp _ _ ih l

/-! ## Chains -/

theorem chainFrom_singleton {a : Text} (ha : a ∈ roots) : r.ChainFrom env roots [a] :=
  ⟨⟨a, ha, rfl⟩, .singleton a⟩

/-- A chain of more than one module leads to its last module from a chain. -/
theorem ChainFrom.of_concat {path : List Text} {a b : Text}
    (h : r.ChainFrom env roots (path ++ [a] ++ [b])) :
    r.ChainFrom env roots (path ++ [a]) ∧ r.Leads env a b := by
  obtain ⟨hpath, -, hstep⟩ := List.isChain_append.1 h.linked
  obtain ⟨root, hroot, hhead⟩ := h.root
  refine ⟨⟨⟨root, hroot, ?_⟩, hpath⟩, hstep a (by simp) b (by simp)⟩
  rwa [List.head?_append_of_ne_nil _ (by simp)] at hhead

theorem ChainFrom.reachable {path : List Text} (h : r.ChainFrom env roots path) :
    ∀ a ∈ path, r.Reachable env roots a := by
  induction path using List.reverseRecOn with
  | nil => simp
  | append_singleton path b ih =>
    intro c hc
    rcases List.eq_nil_or_concat path with rfl | ⟨path, a, rfl⟩
    · obtain ⟨root, hroot, hhead⟩ := h.root
      rw [List.mem_singleton.1 hc, Option.some.inj hhead]
      exact .root hroot
    · rw [List.concat_eq_append] at h ih hc
      obtain ⟨hpath, hleads⟩ := h.of_concat
      rcases List.mem_append.1 hc with hc | hc
      · exact ih hpath c hc
      · rw [List.mem_singleton.1 hc]
        exact (ih hpath a (by simp)).lead hleads

theorem ChainFrom.nodup {path : List Text} (h : r.ChainFrom env roots path)
    (hacyclic : ∀ a, r.Reachable env roots a → ¬ r.OnCycle env a) : path.Nodup := by
  have hpairs : path.Pairwise (TransGen (r.Leads env)) :=
    List.isChain_iff_pairwise.1 (h.linked.imp fun _ _ => .single)
  refine hpairs.imp_of_mem fun {a b} ha _ hab heq => ?_
  subst heq
  exact hacyclic a (h.reachable a ha) hab

/-! ## Ranks -/

theorem length_le_of_rank {rank : Text → Nat}
    (hrank : ∀ a b, r.Leads env a b → rank b < rank a) {a : Text} {path : List Text}
    (h : (a :: path).IsChain (r.Leads env)) : (a :: path).length ≤ rank a + 1 := by
  induction path generalizing a with
  | nil => simp
  | cons b path ih =>
    rw [List.isChain_cons_cons] at h
    have hlower := hrank a b h.1
    have hrest := ih h.2
    rw [List.length_cons]
    omega

theorem not_onCycle_of_rank {rank : Text → Nat}
    (hrank : ∀ a b, r.Leads env a b → rank b < rank a) (a : Text) : ¬ r.OnCycle env a := by
  intro h
  obtain ⟨b, hab, hba⟩ := TransGen.head'_iff.1 h
  -- The way back cannot make up for what the first edge lowers.
  have hle : ∀ c, ReflTransGen (r.Leads env) b c → rank c ≤ rank b := by
    intro c hc
    induction hc with
    | refl => exact Nat.le_refl _
    | tail _ l ih => exact Nat.le_trans (Nat.le_of_lt (hrank _ _ l)) ih
  exact Nat.not_le_of_lt (hrank a b hab) (hle a hba)

end Registry

end GatedModules
