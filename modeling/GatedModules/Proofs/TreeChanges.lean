import GatedModules.Plan.Sink
import GatedModules.Proofs.Loading
import Mathlib.Data.List.Basic

/-!
# What writing changes in a file tree

A file that is written stands where its path leads to. Everything else is as it was, but for the
directories on the way to the file, which are made where there was nothing.
-/

namespace GatedModules

namespace FileTree

variable {tree tree' tree'' : FileTree} {p : FilePath} {place : List Text}

/-! ## One entry -/

theorem lookup_filter_ne {other : List Text} (h : other ≠ place)
    (entries : List (List Text × FileEntry)) :
    (entries.filter fun e => e.1 != place).lookup other = entries.lookup other := by
  induction entries with
  | nil => rfl
  | cons e rest ih =>
    by_cases he : e.1 = place
    · rw [List.filter_cons_of_neg (by simp [he]), ih, List.lookup_cons, beq_false_of_ne (he ▸ h)]
    · rw [List.filter_cons_of_pos (by simp [he]), List.lookup_cons, List.lookup_cons, ih]

theorem entry?_set_of_ne {other : List Text} (entry : FileEntry) (h : other ≠ place) :
    entry? (tree.set place entry) other = tree.entry? other := by
  have hlookup : (tree.set place entry).entries.lookup other = tree.entries.lookup other := by
    rw [set, List.lookup_cons, beq_false_of_ne h]
    exact lookup_filter_ne h _
  unfold entry?
  rw [hlookup]

theorem entry?_set_self (entry : FileEntry) (h : tree.entry? place ≠ some .directory) :
    entry? (tree.set place entry) place = some entry := by
  unfold entry? at h ⊢
  split at h
  · exact absurd rfl h
  · rename_i hfixed
    rw [if_neg hfixed, set, List.lookup_cons_self]

/-! ## More files -/

/-- What was a directory still is one, and where something stood something stands. -/
structure Grows (tree tree' : FileTree) : Prop where
  here : tree'.here = tree.here
  directory : ∀ place, tree.entry? place = some .directory → tree'.entry? place = some .directory
  present : ∀ place, (tree.entry? place).isSome → (tree'.entry? place).isSome

namespace Grows

theorem refl (tree : FileTree) : Grows tree tree := ⟨rfl, fun _ h => h, fun _ h => h⟩

theorem trans (h : Grows tree tree') (h' : Grows tree' tree'') : Grows tree tree'' :=
  ⟨h'.here.trans h.here, fun place hplace => h'.directory place (h.directory place hplace),
    fun place hplace => h'.present place (h.present place hplace)⟩

theorem set (entry : FileEntry) (h : tree.entry? place ≠ some .directory) :
    Grows tree (tree.set place entry) := by
  refine ⟨rfl, ?_, ?_⟩
  · intro other hother
    have hne : other ≠ place := fun heq => h (heq ▸ hother)
    rw [entry?_set_of_ne entry hne, hother]
  · intro other hother
    by_cases heq : other = place
    · rw [heq, entry?_set_self entry h, Option.isSome_some]
    · rw [entry?_set_of_ne entry heq, hother]

theorem follow (h : Grows tree tree') {name : Text} {next : List Text}
    (hnext : tree.follow place name = .ok next) : tree'.follow place name = .ok next := by
  unfold FileTree.follow at hnext ⊢
  split at hnext
  · cases hnext
  · cases hnext
  · rename_i hentry
    simp only [h.directory place hentry]
    split at hnext
    · rename_i hup
      rw [if_pos hup]
      exact hnext
    · rename_i hup
      rw [if_neg hup]
      split at hnext
      · cases hnext
      · rename_i hshort
        split at hnext
        · rename_i hthere
          rw [if_neg hshort, if_pos (h.present _ hthere)]
          exact hnext
        · cases hnext

theorem locateFrom (h : Grows tree tree') {names start : List Text}
    (hplace : tree.locateFrom start names = .ok place) :
    tree'.locateFrom start names = .ok place := by
  unfold FileTree.locateFrom at hplace ⊢
  induction names generalizing start with
  | nil => exact hplace
  | cons name names ih =>
    obtain ⟨next, hnext, hrest⟩ := bind_eq_ok_iff.1 hplace
    exact bind_eq_ok_iff.2 ⟨next, h.follow hnext, ih hrest⟩

theorem locate (h : Grows tree tree') (hplace : tree.locate p = .ok place) :
    tree'.locate p = .ok place := by
  obtain ⟨hcheck, hfrom⟩ := locate_eq_ok.1 hplace
  have hstart : tree'.startOf p = tree.startOf p := by rw [startOf, startOf, h.here]
  exact locate_eq_ok.2 ⟨hcheck, hstart ▸ h.locateFrom hfrom⟩

end Grows

/-! ## New places -/

/-- A place inside a directory that a path can name. -/
structure IsNew (tree : FileTree) (p : FilePath) (place : List Text) : Prop where
  check : check p = .ok ()
  inside : ∃ (directory : List Text) (name : Text), tree.locate p.parent = .ok directory ∧
    tree.entry? directory = some .directory ∧ p.names = p.parent.names ++ [name] ∧
    name ≠ ".." ∧ ¬ FilePath.partLimit < name.nameSize ∧ place = directory ++ [name]

theorem isNew_of_newPlace (h : tree.newPlace p = .ok (some place)) : tree.IsNew p place := by
  unfold newPlace at h
  split at h
  · cases h
  · rename_i name hlast
    obtain ⟨⟨⟩, hcheck, hrest⟩ := bind_eq_ok_iff.1 h
    obtain ⟨directory, hdirectory, hrest⟩ := bind_eq_ok_iff.1 hrest
    have hnames : p.names = p.parent.names ++ [name] := by
      have hparent : p.parent.names = p.names.dropLast := List.map_dropLast
      rw [hparent, List.dropLast_append_getLast? name hlast]
    split at hrest
    · rename_i hentry
      split at hrest
      · cases hrest
      · rename_i hup
        split at hrest
        · cases hrest
        · rename_i hshort
          cases hrest
          exact ⟨hcheck, directory, name, hdirectory, hentry, hnames, hup, hshort, rfl⟩
    · cases hrest

/-- Once something stands at a new place, the path leads there. -/
theorem IsNew.locate (h : tree.IsNew p place) (hgrows : Grows tree tree')
    (hpresent : (tree'.entry? place).isSome) : tree'.locate p = .ok place := by
  obtain ⟨hcheck, directory, name, hdirectory, hentry, hnames, hup, hshort, rfl⟩ := h
  obtain ⟨-, hfrom⟩ := locate_eq_ok.1 (hgrows.locate hdirectory)
  have hstart : tree'.startOf p.parent = tree'.startOf p := rfl
  have hfollow : tree'.follow directory name = .ok (directory ++ [name]) := by
    simp only [follow, hgrows.directory _ hentry]
    rw [if_neg hup, if_neg hshort, if_pos hpresent]
  refine locate_eq_ok.2 ⟨hcheck, ?_⟩
  rw [hnames, locateFrom_concat, ← hstart, hfrom]
  exact hfollow

/-! ## Directories -/

/-- The path of the first parts. -/
def upTo (p : FilePath) (n : Nat) : FilePath := { p with parts := p.parts.take n }

/-- Where something is new it is a directory on the way of a path. -/
structure Paves (p : FilePath) (tree tree' : FileTree) : Prop where
  grows : Grows tree tree'
  changed : ∀ place, tree'.entry? place = tree.entry? place ∨
    tree.entry? place = none ∧ tree'.entry? place = some .directory ∧
      ∃ n, tree'.locate (upTo p n) = .ok place

namespace Paves

theorem refl (p : FilePath) (tree : FileTree) : Paves p tree tree := ⟨.refl tree, fun _ => .inl rfl⟩

theorem trans (h : Paves p tree tree') (h' : Paves p tree' tree'') : Paves p tree tree'' := by
  refine ⟨h.grows.trans h'.grows, fun place => ?_⟩
  rcases h'.changed place with hsame' | ⟨hnone', hmade', n, hlocate'⟩
  · rw [hsame']
    refine (h.changed place).imp_right fun ⟨hnone, hmade, n, hlocate⟩ => ?_
    exact ⟨hnone, hmade, n, h'.grows.locate hlocate⟩
  · rcases h.changed place with hsame | ⟨-, hmade, -⟩
    · exact .inr ⟨hsame ▸ hnone', hmade', n, hlocate'⟩
    · rw [hnone'] at hmade
      cases hmade

theorem of_parent (h : Paves p.parent tree tree') : Paves p tree tree' := by
  refine ⟨h.grows, fun place => (h.changed place).imp_right fun ⟨hnone, hmade, n, hlocate⟩ => ?_⟩
  have hupTo : upTo p.parent n = upTo p (min n (p.parts.length - 1)) := by
    simp [upTo, FilePath.parent, List.dropLast_eq_take, List.take_take]
  exact ⟨hnone, hmade, _, hupTo ▸ hlocate⟩

end Paves

theorem paves_makeDirectory (h : tree.makeDirectory p = .ok tree') : Paves p tree tree' := by
  unfold makeDirectory at h
  split at h
  · cases h
  · cases h
  · rename_i new hnew
    split at h
    · cases h
    · rename_i hnone
      cases h
      rw [Option.not_isSome_iff_eq_none] at hnone
      have hnot : tree.entry? new ≠ some .directory := by simp [hnone]
      have hself : entry? (tree.set new .directory) new = some .directory :=
        entry?_set_self _ hnot
      refine ⟨.set _ hnot, fun place => ?_⟩
      by_cases hplace : place = new
      · have hwhole : upTo p p.parts.length = p := by rw [upTo, List.take_length]
        have hlocate : (tree.set new .directory).locate p = .ok new :=
          (isNew_of_newPlace hnew).locate (.set _ hnot) (by rw [hself, Option.isSome_some])
        rw [hplace]
        exact .inr ⟨hnone, hself, p.parts.length, by rw [hwhole, hlocate]⟩
      · exact .inl (entry?_set_of_ne _ hplace)

theorem paves_ensureDirectory (h : tree.ensureDirectory p = .ok tree') : Paves p tree tree' := by
  unfold ensureDirectory at h
  split at h
  · rename_i hmade
    cases h
    exact paves_makeDirectory hmade
  · split at h
    · cases h
      exact .refl p _
    · cases h

theorem paves_ensureDirectories (h : tree.ensureDirectories p = .ok tree') :
    Paves p tree tree' := by
  -- up the path to the first directory that is there, and down again
  induction p using ensureDirectories.induct tree generalizing tree' with
  | case1 p made hmade =>
    rw [ensureDirectories, hmade] at h
    cases h
    exact paves_ensureDirectory hmade
  | case2 p e he hmissing ih =>
    rw [ensureDirectories, he] at h
    simp only [if_pos hmissing] at h
    obtain ⟨above, habove, hbelow⟩ := bind_eq_ok_iff.1 h
    exact (ih habove).of_parent.trans (paves_ensureDirectory hbelow)
  | case3 p e he hother =>
    rw [ensureDirectories, he] at h
    simp only [if_neg hother] at h
    cases h

/-! ## Files -/

theorem write_spec {text : String} (h : tree.write p text = .ok (place, tree')) :
    tree'.locate p = .ok place ∧ tree'.entry? place = some (.file text.toUTF8) ∧
    Grows tree tree' ∧ ∀ other ≠ place, tree'.entry? other = tree.entry? other := by
  unfold write at h
  split at h
  · cases h
  · cases h
  · rename_i new hnew
    split at h
    · cases h
    · rename_i hnot
      cases h
      have hself : entry? (tree.set place (.file text.toUTF8)) place = some (.file text.toUTF8) :=
        entry?_set_self _ hnot
      have hgrows : Grows tree (tree.set place (.file text.toUTF8)) := .set _ hnot
      have hlocate := (isNew_of_newPlace hnew).locate hgrows (by rw [hself, Option.isSome_some])
      exact ⟨hlocate, hself, hgrows, fun other hother => entry?_set_of_ne _ hother⟩

end FileTree

namespace PlanSink

/-- A file has been written and nothing else has changed, but for new directories that the file
stands in. -/
structure Changes (path : FilePath) (written : Written) (files files' : FileTree) : Prop where
  leads : files'.locate path = .ok written.place
  content : files'.entry? written.place = some (.file written.text.toUTF8)
  others : ∀ place ≠ written.place, files'.entry? place = files.entry? place ∨
    files.entry? place = none ∧ files'.entry? place = some .directory ∧
      ∃ n, files'.locate (FileTree.upTo path n) = .ok place

theorem apply_file {path : FilePath} {layout : Json.Layout} {plan : SerializedPlan}
    {files files' : FileTree} {result : Option Written}
    (h : (file path layout).apply plan files = .ok (result, files')) :
    ∃ written, result = some written ∧ written.text = fileText layout plan ∧
      Changes path written files files' := by
  obtain ⟨paved, hpaved, hrest⟩ := bind_eq_ok_iff.1 h
  obtain ⟨⟨place, last⟩, hwrite, hpair⟩ := bind_eq_ok_iff.1 hrest
  cases hpair
  have hpaves := (FileTree.paves_ensureDirectories hpaved).of_parent
  obtain ⟨hleads, hcontent, hgrows, hothers⟩ := FileTree.write_spec hwrite
  refine ⟨⟨place, fileText layout plan⟩, rfl, rfl, hleads, hcontent, fun other hother => ?_⟩
  rw [hothers other hother]
  refine (hpaves.changed other).imp_right fun ⟨hnone, hmade, n, hlocate⟩ => ?_
  exact ⟨hnone, hmade, n, hgrows.locate hlocate⟩

end PlanSink

end GatedModules
