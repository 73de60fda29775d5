import GatedModules.Proofs.Results
import GatedModules.Proofs.WholeTexts
import GatedModules.Terminal.Drawing
import Mathlib.Data.List.SplitBy

/-!
# What the terminal draws

Wrapping a text and fitting it into a column add nothing to it but spaces and an ellipsis, and a
table adds the lines around its cells. So the terminal draws everything that has no half of a pair
in it.
-/

namespace GatedModules

/-- Glyphs of characters, without halves of pairs. -/
def WholeLine (gs : List Glyph) : Prop := ∀ g ∈ gs, g.point.isHalf = false

variable {gs : List Glyph}

namespace WholeLine

@[simp] theorem nil : WholeLine [] := by simp [WholeLine]

theorem append {hs : List Glyph} (hgs : WholeLine gs) (hhs : WholeLine hs) :
    WholeLine (gs ++ hs) :=
  List.forall_mem_append.2 ⟨hgs, hhs⟩

theorem of_subset {hs : List Glyph} (h : WholeLine gs) (hsub : hs ⊆ gs) : WholeLine hs :=
  fun g hg => h g (hsub hg)

end WholeLine

namespace Text

variable {t : Text}

/-! ## From texts to glyphs and back -/

theorem whole_still (h : t.Whole) : t.still.Whole := fun p hp => h p (List.mem_filter.1 hp).1

theorem whole_ofGlyphs : (ofGlyphs gs).Whole ↔ WholeLine gs := List.forall_mem_map

theorem whole_glyphs (h : t.Whole) : WholeLine t.glyphs := List.forall_mem_map.2 h

theorem whole_highlighted (h : t.Whole) : WholeLine t.highlighted := by
  intro g hg
  obtain ⟨i, hi, rfl⟩ := List.mem_mapIdx.1 hg
  exact h _ (List.getElem_mem hi)

/-! ## Cutting and filling up -/

theorem whole_spaces (count : Nat) : WholeLine (spaces count) := by
  intro g hg
  rw [List.eq_of_mem_replicate hg]
  rfl

theorem whole_clustersAfter {b : Before} {begun : Cluster} (hbegun : WholeLine begun.glyphs)
    (h : WholeLine gs) : ∀ c ∈ clustersAfter b begun gs, WholeLine c.glyphs := by
  induction gs generalizing b begun with
  | nil => simpa [clustersAfter] using hbegun
  | cons g rest ih =>
    obtain ⟨hg, hrest⟩ := List.forall_mem_cons.1 h
    have hsingle : WholeLine [g] := List.forall_mem_singleton.2 hg
    unfold clustersAfter
    split
    · exact ih (hbegun.append hsingle) hrest
    · exact List.forall_mem_cons.2 ⟨hbegun, ih hsingle hrest⟩

theorem whole_clusters (h : WholeLine gs) : ∀ c ∈ clusters gs, WholeLine c.glyphs := by
  cases gs with
  | nil => simp [clusters]
  | cons g rest =>
    obtain ⟨hg, hrest⟩ := List.forall_mem_cons.1 h
    exact whole_clustersAfter (List.forall_mem_singleton.2 hg) hrest

theorem whole_cutClusters {room : Nat} {cs : List Cluster} (h : ∀ c ∈ cs, WholeLine c.glyphs) :
    WholeLine (cutClusters room cs) := by
  induction cs generalizing room with
  | nil => exact WholeLine.nil
  | cons c rest ih =>
    obtain ⟨hc, hrest⟩ := List.forall_mem_cons.1 h
    unfold cutClusters
    split
    · exact WholeLine.nil
    · split
      · exact hc.append (ih hrest)
      · exact List.forall_mem_singleton.2 rfl

theorem whole_cropped (room : Nat) (h : WholeLine gs) : WholeLine (cropped room gs) := by
  unfold cropped
  split
  · exact h
  · exact whole_cutClusters (whole_clusters h)

theorem whole_splitBy (r : Glyph → Glyph → Bool) (h : WholeLine gs) :
    ∀ piece ∈ gs.splitBy r, WholeLine piece := by
  intro piece hpiece
  refine h.of_subset fun g hg => ?_
  rw [← List.flatten_splitBy r gs]
  exact List.mem_flatten_of_mem hpiece hg

theorem whole_spread {column : Nat} {pieces : List (List Glyph)}
    (h : ∀ piece ∈ pieces, WholeLine piece) : WholeLine (spread column pieces) := by
  induction pieces generalizing column with
  | nil => exact WholeLine.nil
  | cons piece rest ih =>
    obtain ⟨hpiece, hrest⟩ := List.forall_mem_cons.1 h
    have hspaced : WholeLine
        (piece.map fun g => if isTab g then { g with point := ' ' } else g) := by
      refine List.forall_mem_map.2 fun g hg => ?_
      split
      · rfl
      · exact hpiece g hg
    unfold spread
    exact (hspaced.append (whole_spaces _)).append (ih hrest)

theorem whole_expandTabs (h : WholeLine gs) : WholeLine (expandTabs gs) :=
  whole_spread (whole_splitBy _ h)

/-! ## Wrapping -/

theorem whole_words (h : WholeLine gs) : ∀ word ∈ words gs, WholeLine word := by
  have hpieces := whole_splitBy (fun a b => !(isBlankGlyph a && !isBlankGlyph b)) h
  unfold words
  split
  · rename_i first second rest hsplit
    rw [hsplit] at hpieces
    obtain ⟨hfirst, hsecond, hrest⟩ := by simpa only [List.forall_mem_cons] using hpieces
    split
    · exact List.forall_mem_cons.2 ⟨hfirst.append hsecond, hrest⟩
    · exact hpieces
  · exact hpieces

theorem dropTail_subset (p : α → Bool) (xs : List α) : dropTail p xs ⊆ xs := by
  intro x hx
  have hmem := (List.dropWhile_sublist p).subset (List.mem_reverse.1 hx)
  exact List.mem_reverse.1 hmem

theorem whole_deal {room used : Nat} {cs : List Cluster} (h : ∀ c ∈ cs, WholeLine c.glyphs) :
    ∀ piece ∈ deal room used cs, WholeLine piece := by
  induction cs generalizing used with
  | nil => simp [deal]
  | cons c rest ih =>
    obtain ⟨hc, hrest⟩ := List.forall_mem_cons.1 h
    unfold deal
    split <;> split
    · simpa using hc
    · rename_i piece pieces hdeal
      have hpieces : ∀ piece ∈ deal room (used + c.places) rest, WholeLine piece := ih hrest
      rw [hdeal, List.forall_mem_cons] at hpieces
      exact List.forall_mem_cons.2 ⟨hc.append hpieces.1, hpieces.2⟩
    · simpa using hc
    · rename_i piece pieces hdeal
      have hpieces : ∀ piece ∈ deal room c.places rest, WholeLine piece := ih hrest
      rw [hdeal, List.forall_mem_cons] at hpieces
      simp only [List.forall_mem_cons]
      exact ⟨WholeLine.nil, hc.append hpieces.1, hpieces.2⟩

theorem whole_fill {room used : Nat} {line : List Glyph} {all : List (List Glyph)}
    (hline : WholeLine line) (h : ∀ word ∈ all, WholeLine word) :
    ∀ filled ∈ fill room line used all, WholeLine filled := by
  induction all generalizing line used with
  | nil => simpa [fill] using hline
  | cons word rest ih =>
    obtain ⟨hword, hrest⟩ := List.forall_mem_cons.1 h
    unfold fill
    dsimp only
    split
    · exact ih (hline.append hword) hrest
    · generalize hpieces : (if room < _ then _ else _) = pieces
      have hall : ∀ piece ∈ pieces, WholeLine piece := by
        rw [← hpieces]
        split
        · exact whole_deal (whole_clusters hword)
        · exact List.forall_mem_singleton.2 hword
      have hlast : WholeLine (pieces.getLast?.getD []) := by
        cases hget : pieces.getLast? with
        | none => exact WholeLine.nil
        | some piece => exact hall piece (List.mem_of_getLast? hget)
      simp only [List.forall_mem_append]
      refine ⟨⟨?_, fun piece hpiece => hall piece ((List.dropLast_sublist _).subset hpiece)⟩,
        ih hlast hrest⟩
      split
      · simp
      · exact List.forall_mem_singleton.2 hline

theorem whole_cutMargin (room : Nat) (h : WholeLine gs) : WholeLine (cutMargin room gs) :=
  (h.of_subset (List.take_subset _ _)).append
    (h.of_subset (List.Subset.trans (dropTail_subset _ _) (List.drop_subset _ _)))

theorem whole_piecesAt (p : Glyph → Bool) (h : WholeLine gs) :
    ∀ piece ∈ piecesAt p gs, WholeLine piece := by
  induction gs with
  | nil => simp [piecesAt]
  | cons g rest ih =>
    obtain ⟨hg, hrest⟩ := List.forall_mem_cons.1 h
    have hpieces := ih hrest
    unfold piecesAt
    split
    · exact List.forall_mem_cons.2 ⟨WholeLine.nil, hpieces⟩
    · split
      · exact List.forall_mem_singleton.2 (List.forall_mem_singleton.2 hg)
      · rename_i piece pieces hrests
        rw [hrests, List.forall_mem_cons] at hpieces
        exact List.forall_mem_cons.2 ⟨List.forall_mem_cons.2 ⟨hg, hpieces.1⟩, hpieces.2⟩

theorem whole_wrap (room : Nat) (h : WholeLine gs) : ∀ line ∈ wrap room gs, WholeLine line := by
  intro line hline
  obtain ⟨piece, hpiece, hline⟩ := List.mem_flatMap.1 hline
  obtain ⟨filled, hfilled, rfl⟩ := List.mem_map.1 hline
  have hwords := whole_words (whole_expandTabs (whole_piecesAt _ h piece hpiece))
  exact whole_cropped _ (whole_cutMargin _ (whole_fill WholeLine.nil hwords filled hfilled))

theorem whole_centered (room : Nat) (h : WholeLine gs) : WholeLine (centered room gs) :=
  ((whole_spaces _).append (h.of_subset (dropTail_subset _ _))).append (whole_spaces _)

theorem whole_cutPieces {room : Nat} {pieces : List (List Glyph)}
    (h : ∀ piece ∈ pieces, WholeLine piece) : WholeLine (cutPieces room pieces) := by
  induction pieces generalizing room with
  | nil => exact WholeLine.nil
  | cons piece rest ih =>
    obtain ⟨hpiece, hrest⟩ := List.forall_mem_cons.1 h
    unfold cutPieces
    split
    · exact hpiece.append (ih hrest)
    · exact whole_cropped _ hpiece

theorem whole_putOut (room : Nat) (h : WholeLine gs) : WholeLine (putOut room gs) := by
  unfold putOut
  dsimp only
  split
  · exact whole_cutPieces (whole_splitBy _ h)
  · exact h

end Text

namespace Terminal

open Text

/-! ## Tables -/

theorem whole_shorten (room : Nat) (h : WholeLine gs) : WholeLine (shorten room gs) := by
  unfold shorten
  split
  · exact (whole_cropped _ h).append (List.forall_mem_singleton.2 rfl)
  · exact h

theorem whole_padded (room : Nat) (h : WholeLine gs) : WholeLine (padded room gs) :=
  h.append (whole_spaces _)

theorem whole_filled (atRight : Bool) (room : Nat) (h : WholeLine gs) :
    WholeLine (filled atRight room gs) := by
  unfold filled
  split
  · exact (whole_spaces _).append h
  · exact whole_padded _ (whole_padded _ h)

theorem whole_boxed (room : Nat) (h : WholeLine gs) : WholeLine (boxed room gs) := by
  unfold boxed
  refine ((whole_spaces 1).append h).append ?_
  split
  · exact WholeLine.nil
  · exact whole_spaces 1

theorem whole_cellLines (column : Column) (room : Nat) {cell : Text} (h : cell.Whole) :
    ∀ line ∈ cellLines column room cell, line.Whole := by
  refine List.forall_mem_map.2 fun piece hpiece => whole_ofGlyphs.2 ?_
  have hglyphs := whole_piecesAt _ (whole_glyphs (whole_still h)) piece hpiece
  exact whole_boxed _ (whole_filled _ _ (whole_shorten _ (whole_expandTabs hglyphs)))

theorem whole_drawLine (bar : String) {parts : List Text} (h : ∀ part ∈ parts, part.Whole) :
    (drawLine bar parts).Whole := by
  simp only [drawLine, whole_append, whole_ofString, and_true, true_and]
  exact whole_intercalate (whole_ofString bar) h

theorem whole_drawRow (t : Table) (bar : String) {cells : List Text}
    (h : ∀ cell ∈ cells, cell.Whole) : ∀ line ∈ drawRow t bar cells, line.Whole := by
  unfold drawRow
  dsimp only
  refine List.forall_mem_map.2 fun i _ => whole_drawLine bar ?_
  simp only [List.map_map]
  refine List.forall_mem_map.2 fun c hc => ?_
  have hcell : c.2.Whole := h c.2 (List.of_mem_zip hc).2
  dsimp only [Function.comp]
  cases hline : (cellLines c.1.1 c.1.2 c.2)[i]? with
  | none => exact whole_ofGlyphs.2 (whole_spaces _)
  | some line => exact whole_cellLines _ _ hcell line (List.mem_of_getElem? hline)

theorem whole_tableLines {t : Table} (h : ∀ text ∈ t.texts, text.Whole) :
    ∀ line ∈ tableLines t, line.Whole := by
  simp only [Table.texts, List.forall_mem_cons, List.forall_mem_append] at h
  obtain ⟨⟨htitle, hcolumns⟩, hrows⟩ := h
  simp only [tableLines, List.forall_mem_append, List.forall_mem_singleton, drawRule,
    whole_append, whole_ofString, and_true]
  refine ⟨⟨?_, whole_drawRow t _ hcolumns⟩, fun line hline => ?_⟩
  · refine List.forall_mem_map.2 fun line hline => whole_ofGlyphs.2 (whole_centered _ ?_)
    exact whole_wrap _ (whole_glyphs (whole_still htitle)) line hline
  · obtain ⟨row, hrow, hline⟩ := List.mem_flatMap.1 hline
    exact whole_drawRow t _ (fun cell hcell => hrows cell (List.mem_flatten_of_mem hrow hcell))
      line hline

/-! ## Lines of text -/

theorem whole_textLines {t : Text} (h : t.Whole) : ∀ line ∈ textLines t, line.Whole := by
  have hglyphs : WholeLine (lineGlyphs t.still) := by
    unfold lineGlyphs
    split
    · exact whole_highlighted (whole_still h)
    · exact whole_glyphs (whole_still h)
  refine List.forall_mem_map.2 fun line hline => whole_ofGlyphs.2 (whole_putOut _ ?_)
  exact whole_wrap _ hglyphs line hline

/-! ## Drawing -/

theorem exists_written {lines : List Text} (h : ∀ line ∈ lines, line.Whole) :
    ∃ output, written lines = .ok output := by
  have hwhole : (join (lines.map (· ++ ("\n" : Text)))).Whole := by
    refine whole_join (List.forall_mem_map.2 fun line hline => ?_)
    exact whole_append.2 ⟨h line hline, whole_ofString _⟩
  exact ⟨_, by rw [written, written_of_whole hwhole]; rfl⟩

/-- What keeps the terminal from drawing is a half of a pair in the texts. -/
theorem comesFrom_of_written {lines texts : List Text} (assignments : List (Text × Text))
    (h : (∀ text ∈ texts, text.Whole) → ∀ line ∈ lines, line.Whole) {fault : DrawingFault}
    (hfault : written lines = .error fault) : fault.ComesFrom assignments texts := by
  obtain ⟨e, -, rfl⟩ := mapError_eq_error_iff.1 hfault
  by_contra hnone
  have hwhole : ∀ text ∈ texts, text.Whole := by
    intro text htext point hpoint
    rw [← Bool.not_eq_true]
    exact fun hhalf => hnone ⟨text, htext, point, hpoint, hhalf⟩
  obtain ⟨output, houtput⟩ := exists_written (h hwhole)
  rw [houtput] at hfault
  cases hfault

theorem documented_drawing (assignments : List (Text × Text)) :
    drawing.Documented assignments where
  table _ _ hfault := comesFrom_of_written assignments whole_tableLines hfault
  line _ _ hfault := comesFrom_of_written assignments
    (fun h => whole_textLines (List.forall_mem_singleton.1 h)) hfault

end Terminal

end GatedModules
