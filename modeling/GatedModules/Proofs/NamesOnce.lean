import GatedModules.Json.Reader
import GatedModules.Proofs.Results
import Mathlib.Data.List.Nodup

/-!
# Members named once

An object has a member for each of its names, so no name stands in it twice, and the same goes for
the objects inside it. Whatever the reader gives is of this kind, also where the text repeats a
name, since the later member replaces the earlier one.
-/

namespace GatedModules.Json

/-- A value in which no object names a member twice. -/
inductive NamesOnce : Json → Prop
  | null : NamesOnce .null
  | bool (b : Bool) : NamesOnce (.bool b)
  | int (n : Int) : NamesOnce (.int n)
  | float (x : Double) : NamesOnce (.float x)
  | str (t : Text) : NamesOnce (.str t)
  | arr {items : List Json} (h : ∀ v ∈ items, v.NamesOnce) : NamesOnce (.arr items)
  | obj {members : List (Text × Json)} (names : (members.map (·.1)).Nodup)
    (values : ∀ m ∈ members, m.2.NamesOnce) : NamesOnce (.obj members)

theorem NamesOnce.member {data value : Json} {name : Text} (h : data.NamesOnce)
    (hvalue : data.member? name = some value) : value.NamesOnce := by
  cases h with
  | obj names values =>
    obtain ⟨before, after, hmembers, -⟩ := List.lookup_eq_some_iff.1 hvalue
    exact values (name, value) (by simp [hmembers])
  | _ => cases hvalue

theorem NamesOnce.nodup {members : List (Text × Json)} (h : (Json.obj members).NamesOnce) :
    (members.map (·.1)).Nodup := by
  cases h with
  | obj names values => exact names

/-! ## Setting members -/

variable {α : Type} {key : Text} {value : α} {members : List (Text × α)}

theorem mem_setMember {m : Text × α} (h : m ∈ setMember key value members) :
    m = (key, value) ∨ m ∈ members := by
  induction members with
  | nil => simpa [setMember] using h
  | cons n members ih =>
    rw [setMember] at h
    split at h
    · next hkey =>
      rcases List.mem_cons.1 h with rfl | h
      · exact .inl (by rw [hkey])
      · exact .inr (List.mem_cons_of_mem _ h)
    · rcases List.mem_cons.1 h with rfl | h
      · exact .inr List.mem_cons_self
      · exact (ih h).imp_right (List.mem_cons_of_mem _)

theorem nodup_setMember (h : (members.map (·.1)).Nodup) :
    ((setMember key value members).map (·.1)).Nodup := by
  induction members with
  | nil => simp [setMember]
  | cons n members ih =>
    obtain ⟨hn, hmembers⟩ := List.nodup_cons.1 h
    rw [setMember]
    split
    · exact h
    · next hkey =>
      refine List.nodup_cons.2 ⟨fun hmem => ?_, ih hmembers⟩
      obtain ⟨m, hm, hname⟩ := List.mem_map.1 hmem
      rcases mem_setMember hm with rfl | hm
      · exact hkey hname.symm
      · exact hn (List.mem_map.2 ⟨m, hm, hname⟩)

theorem namesOnce_ofPairs {pairs : List (Text × Json)} (h : ∀ p ∈ pairs, p.2.NamesOnce) :
    (obj (ofPairs pairs)).NamesOnce := by
  have added (members pairs : List (Text × Json)) (hmembers : (obj members).NamesOnce)
      (hpairs : ∀ p ∈ pairs, p.2.NamesOnce) :
      (obj (pairs.foldl (fun members p => setMember p.1 p.2 members) members)).NamesOnce := by
    induction pairs generalizing members with
    | nil => exact hmembers
    | cons p pairs ih =>
      obtain ⟨hp, hrest⟩ := List.forall_mem_cons.1 hpairs
      refine ih _ ?_ hrest
      cases hmembers with
      | obj names values =>
        refine .obj (nodup_setMember names) fun m hm => ?_
        rcases mem_setMember hm with rfl | hm
        · exact hp
        · exact values m hm
  exact added [] pairs (.obj List.nodup_nil fun _ h => absurd h List.not_mem_nil) h

/-! ## Reading -/

/-- What was read is good, if anything was read. -/
def Gives (good : α → Prop) (x : Except Stop (α × List Char)) : Prop :=
  Yields (fun p => good p.1) (fun _ => True) x

theorem Gives.bind {β : Type} {good : α → Prop} {better : β → Prop}
    {x : Except Stop (α × List Char)} {f : α × List Char → Except Stop (β × List Char)}
    (h : Gives good x) (hf : ∀ a rest, good a → Gives better (f (a, rest))) :
    Gives better (x >>= f) :=
  Yields.bind h fun p hp => hf p.1 p.2 hp

theorem gives_any (x : Except Stop (α × List Char)) : Gives (fun _ => True) x := by
  cases x <;> trivial

theorem gives_error {good : α → Prop} (stop : Stop) : Gives good (.error stop) := trivial

theorem gives_ok {good : α → Prop} {a : α} (ha : good a) (rest : List Char) :
    Gives good (.ok (a, rest)) := ha

theorem readNumber_gives (start : List Char) : Gives NamesOnce (readNumber start) := by
  unfold readNumber
  split
  split
  split
  · exact gives_error _
  split
  split
  split
  · split
    · exact gives_error _
    · exact gives_ok (.int _) _
  · exact gives_ok (.float _) _

theorem words_namesOnce : ∀ w ∈ words, w.2.NamesOnce := by
  simp [words, NamesOnce.null, NamesOnce.bool, NamesOnce.float]

theorem readScalar_gives (cs : List Char) : Gives NamesOnce (readScalar cs) := by
  unfold readScalar
  split
  · next word value hword =>
    exact gives_ok (words_namesOnce _ (List.mem_of_find?_eq_some hword)) _
  · exact readNumber_gives cs

/-- What the reader gives with some fuel. -/
structure GivesWith (fuel : Nat) : Prop where
  value : ∀ depth cs, Gives NamesOnce (readValue depth fuel cs)
  items : ∀ depth cs, Gives (fun vs => ∀ v ∈ vs, v.NamesOnce) (readItems depth fuel cs)
  members : ∀ depth cs, Gives (fun ms => ∀ m ∈ ms, m.2.NamesOnce) (readMembers depth fuel cs)

theorem givesWith_zero : GivesWith 0 where
  value depth cs := by
    unfold readValue
    exact readScalar_gives cs
  items depth cs := by
    unfold readItems
    exact gives_error _
  members depth cs := by
    unfold readMembers
    exact gives_error _

theorem GivesWith.value_succ {fuel : Nat} (ih : GivesWith fuel) (depth : Nat) (cs : List Char) :
    Gives NamesOnce (readValue depth (fuel + 1) cs) := by
  unfold readValue
  split
  · exact (gives_any _).bind fun t rest _ => gives_ok (.str t) rest
  · next fuel' rest hfuel =>
    obtain rfl : fuel = fuel' := Nat.succ.inj hfuel
    split
    · exact gives_error _
    · split
      · exact gives_ok (.arr fun _ h => absurd h List.not_mem_nil) _
      · exact (ih.items _ _).bind fun items rest hitems => gives_ok (.arr hitems) rest
  · next fuel' rest hfuel =>
    obtain rfl : fuel = fuel' := Nat.succ.inj hfuel
    split
    · exact gives_error _
    · split
      · exact gives_ok (.obj List.nodup_nil fun _ h => absurd h List.not_mem_nil) _
      · exact (ih.members _ _).bind fun members rest hmembers =>
          gives_ok (namesOnce_ofPairs hmembers) rest
  · exact readScalar_gives _

theorem GivesWith.items_succ {fuel : Nat} (ih : GivesWith fuel) (depth : Nat) (cs : List Char) :
    Gives (fun vs => ∀ v ∈ vs, v.NamesOnce) (readItems depth (fuel + 1) cs) := by
  unfold readItems
  refine (ih.value depth cs).bind fun value rest hvalue => ?_
  dsimp only
  split
  · exact gives_ok (by simpa using hvalue) _
  · refine (ih.items depth _).bind fun values rest hvalues => gives_ok ?_ rest
    exact List.forall_mem_cons.2 ⟨hvalue, hvalues⟩
  · exact gives_error _

theorem GivesWith.members_succ {fuel : Nat} (ih : GivesWith fuel) (depth : Nat)
    (cs : List Char) :
    Gives (fun ms => ∀ m ∈ ms, m.2.NamesOnce) (readMembers depth (fuel + 1) cs) := by
  unfold readMembers
  split
  · refine (gives_any _).bind fun key named _ => ?_
    dsimp only
    split
    · refine (ih.value depth _).bind fun value next hvalue => ?_
      dsimp only
      split
      · exact gives_ok (by simpa using hvalue) _
      · refine (ih.members depth _).bind fun members rest hmembers => gives_ok ?_ rest
        exact List.forall_mem_cons.2 ⟨hvalue, hmembers⟩
      · exact gives_error _
    · exact gives_error _
  · exact gives_error _

theorem givesWith (fuel : Nat) : GivesWith fuel := by
  induction fuel with
  | zero => exact givesWith_zero
  | succ fuel ih => exact ⟨ih.value_succ, ih.items_succ, ih.members_succ⟩

theorem namesOnce_of_read {cs : List Char} {value : Json} (h : read cs = .ok value) :
    value.NamesOnce := by
  rw [read, mapError_eq_ok_iff, readText] at h
  split at h
  · cases h
  · obtain ⟨⟨v, rest⟩, hread, hend⟩ := bind_eq_ok_iff.1 h
    dsimp only at hend
    split at hend
    · cases hend
      exact ((givesWith _).value _ _).good_of_ok hread
    · cases hend

end GatedModules.Json
