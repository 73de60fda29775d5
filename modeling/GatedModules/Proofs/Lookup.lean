import GatedModules.Registry.Basic
import Mathlib.Data.List.Nodup

/-!
# Looking up modules and words

A name has at most one module, so every way to look a name up finds that module. So it is with the
entries of a table whose keys are distinct, and with words that differ in more than letter case.
-/

namespace GatedModules

/-- Unless all elements of a list are good, there is a first one that is not. -/
theorem forall_or_first (good : α → Prop) (as : List α) :
    (∀ a ∈ as, good a) ∨
      ∃ before a after, as = before ++ a :: after ∧ (∀ b ∈ before, good b) ∧ ¬ good a := by
  induction as with
  | nil => exact .inl fun _ h => absurd h List.not_mem_nil
  | cons a as ih =>
    by_cases ha : good a
    · rcases ih with has | ⟨before, b, after, rfl, hbefore, hb⟩
      · exact .inl (List.forall_mem_cons.2 ⟨ha, has⟩)
      · exact .inr ⟨a :: before, b, after, rfl, List.forall_mem_cons.2 ⟨ha, hbefore⟩, hb⟩
    · exact .inr ⟨[], a, as, rfl, fun _ h => absurd h List.not_mem_nil, ha⟩

theorem lookup_eq_some_iff {entries : List (Text × α)} (h : (entries.map (·.1)).Nodup) {a : Text}
    {v : α} : entries.lookup a = some v ↔ (a, v) ∈ entries := by
  induction entries with
  | nil => simp
  | cons entry entries ih =>
    obtain ⟨b, u⟩ := entry
    rw [List.map_cons, List.nodup_cons] at h
    by_cases hab : a = b
    · subst hab
      have hnew : (a, v) ∉ entries := fun hmem => h.1 (List.mem_map.2 ⟨(a, v), hmem, rfl⟩)
      simp [hnew, eq_comm]
    · have hb : (a == b) = false := by simpa using hab
      rw [List.lookup_cons, hb, List.mem_cons]
      simpa [hab] using ih h.2

theorem lookup_eq_none_iff_not_mem {entries : List (Text × α)} {a : Text} :
    entries.lookup a = none ↔ a ∉ entries.map (·.1) := by
  rw [List.lookup_eq_none_iff, List.mem_map]
  constructor
  · rintro h ⟨entry, hentry, rfl⟩
    simpa using h entry hentry
  · intro h entry hentry
    exact bne_iff_ne.2 fun ha => h ⟨entry, hentry, ha.symm⟩

theorem lookup_eq_of_perm {entries entries' : List (Text × α)} (h : entries.Perm entries')
    (hkeys : (entries.map (·.1)).Nodup) (a : Text) : entries.lookup a = entries'.lookup a := by
  have hkeys' : (entries'.map (·.1)).Nodup := (h.map _).nodup_iff.1 hkeys
  refine Option.ext fun v => ?_
  rw [lookup_eq_some_iff hkeys, lookup_eq_some_iff hkeys', h.mem_iff]

theorem lookup_map_of_injective [DecidableEq ι] {key : ι → Text} (hkey : Function.Injective key)
    (f : ι → α) (is : List ι) (i : ι) :
    (is.map fun j => (key j, f j)).lookup (key i) = if i ∈ is then some (f i) else none := by
  induction is with
  | nil => rfl
  | cons j is ih =>
    rw [List.map_cons, List.lookup_cons, ih]
    by_cases hij : i = j
    · simp [hij]
    · have hne : (key i == key j) = false := by simpa using fun h => hij (hkey h)
      simp [hne, hij]

theorem lookup_map_pair (f : Text → α) (as : List Text) (a : Text) :
    (as.map fun b => (b, f b)).lookup a = if a ∈ as then some (f a) else none :=
  lookup_map_of_injective Function.injective_id f as a

namespace Vocabulary

theorem find?_eq_some_iff {v : Vocabulary α} (h : (v.words.map fun w => Text.lower w.1).Nodup)
    {word : Text} {a : α} :
    v.find? word = some a ↔ ∃ w ∈ v.words, w.2 = a ∧ Text.lower w.1 = Text.lower word := by
  rw [find?, Option.map_eq_some_iff]
  constructor
  · rintro ⟨w, hw, rfl⟩
    have hlower : Text.sameLower w.1 word = true := by simpa using List.find?_some hw
    exact ⟨w, List.mem_of_find?_eq_some hw, rfl, Text.sameLower_iff.1 hlower⟩
  · rintro ⟨w, hw, rfl, hlower⟩
    refine ⟨w, ?_, rfl⟩
    cases hf : v.words.find? fun w => Text.sameLower w.1 word with
    | none => exact absurd (Text.sameLower_iff.2 hlower) (List.find?_eq_none.1 hf w hw)
    | some w' =>
      -- The first word that fits is the only one.
      have hlower' : Text.sameLower w'.1 word = true := by simpa using List.find?_some hf
      rw [List.inj_on_of_nodup_map h (List.mem_of_find?_eq_some hf) hw
        ((Text.sameLower_iff.1 hlower').trans hlower.symm)]

end Vocabulary

namespace Registry

variable {r : Registry} {name : Text} {m : Module}

/-- The place of a name in the order of declaration, or the number of modules if it has none. -/
def position (r : Registry) (name : Text) : Nat := r.names.idxOf name

theorem eq_of_name_eq {m' : Module} (hm : m ∈ r.modules) (hm' : m' ∈ r.modules)
    (h : m.name = m'.name) : m = m' :=
  List.inj_on_of_nodup_map r.nodup hm hm' h

theorem find?_eq_some_iff : r.find? name = some m ↔ m ∈ r.modules ∧ m.name = name := by
  constructor
  · intro h
    exact ⟨List.mem_of_find?_eq_some h, by simpa using List.find?_some h⟩
  · rintro ⟨hm, hname⟩
    cases hf : r.find? name with
    | none => exact absurd hname (by simpa using List.find?_eq_none.1 hf m hm)
    | some a =>
      have ha : a.name = name := by simpa using List.find?_some hf
      rw [eq_of_name_eq (List.mem_of_find?_eq_some hf) hm (ha.trans hname.symm)]

theorem declares_iff : r.declares name = true ↔ ∃ m ∈ r.modules, m.name = name := by
  simp [declares, names]

theorem declares_iff_find? : r.declares name = true ↔ ∃ m, r.find? name = some m := by
  simp only [declares_iff, find?_eq_some_iff]

theorem find?_eq_none_iff : r.find? name = none ↔ r.declares name = false := by
  rw [← Bool.not_eq_true, declares_iff_find?]
  cases r.find? name <;> simp

/-- Unless all of some names are declared, there is a first one that is not. -/
theorem declared_or_first_undeclared (r : Registry) (names : List Text) :
    (∀ a ∈ names, r.declares a = true) ∨
      ∃ before name after, names = before ++ name :: after ∧
        (∀ a ∈ before, r.declares a = true) ∧ r.declares name = false := by
  simpa using forall_or_first (fun name => r.declares name = true) names

theorem get_eq_ok_iff : r.get name = .ok m ↔ m ∈ r.modules ∧ m.name = name := by
  rw [← find?_eq_some_iff, get]
  cases r.find? name <;> simp

theorem indexOf_of_declares (h : r.declares name = true) :
    r.indexOf name = .ok (r.position name) := by
  have hmem : name ∈ r.names := by simpa [declares] using h
  obtain ⟨i, hi⟩ := Option.isSome_iff_exists.1 (List.isSome_idxOf?.2 hmem)
  have hp : r.position name = i := by
    rw [position, List.idxOf_eq_getD_idxOf?, hi]
    rfl
  rw [indexOf, index?, hi, hp]

theorem position_inj {a b : Text} (ha : r.declares a = true)
    (h : r.position a = r.position b) : a = b := by
  have hmem : a ∈ r.names := by simpa [declares] using ha
  exact (List.idxOf_inj hmem).1 h

end Registry

end GatedModules
