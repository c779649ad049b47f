import Mathlib.Data.List.DropRight

/-!
# Words

A list is read as words between separators: `words sep l` are the maximal runs
of elements that are no separators, in order, and `strip sep l` leaves out the
separators at both ends. Extra separators never change the words.
-/

namespace Words

variable {α : Type*} (sep : α → Bool)

/-- The maximal runs without a separator. -/
def words (l : List α) : List (List α) := (l.splitOnP sep).filter (!·.isEmpty)

/-- The list without the separators at its ends. -/
def strip (l : List α) : List α := (l.dropWhile sep).rdropWhile sep

variable {sep} {l m : List α} {a : α}

@[simp] theorem words_nil : words sep [] = [] := by simp [words]

theorem words_append_cons (l m : List α) (h : sep a = true) :
    words sep (l ++ a :: m) = words sep l ++ words sep m := by
  rw [words, List.splitOnP_append_cons l m h, List.filter_append, words, words]

theorem words_cons_of_sep (h : sep a = true) (l : List α) : words sep (a :: l) = words sep l := by
  simpa using words_append_cons [] l h

theorem words_cons_of_not_sep (h : sep a = false) (l : List α) :
    ∃ w ws, words sep (a :: l) = (a :: w) :: ws := by
  obtain ⟨w, ws, hsplit⟩ := List.exists_cons_of_ne_nil (List.splitOnP_ne_nil sep l)
  exact ⟨w, ws.filter (!·.isEmpty), by
    simp [words, List.splitOnP_cons_eq_if_modifyHead, h, hsplit]⟩

theorem words_eq_nil_iff : words sep l = [] ↔ ∀ a ∈ l, sep a = true := by
  induction l with
  | nil => simp
  | cons a l ih =>
      by_cases h : sep a = true
      · rw [words_cons_of_sep h, ih]
        simp [h]
      · obtain ⟨w, ws, hwords⟩ := words_cons_of_not_sep (by simpa using h) l
        simp [hwords, h]

theorem words_append_of_sep (l : List α) (h : ∀ a ∈ m, sep a = true) :
    words sep (l ++ m) = words sep l := by
  cases m with
  | nil => rw [List.append_nil]
  | cons a m =>
      rw [words_append_cons l m (h a List.mem_cons_self),
        words_eq_nil_iff.mpr fun b hb => h b (List.mem_cons_of_mem a hb), List.append_nil]

theorem words_sep_append (m : List α) (h : ∀ a ∈ l, sep a = true) :
    words sep (l ++ m) = words sep m := by
  induction l with
  | nil => rfl
  | cons a l ih =>
      rw [List.cons_append, words_cons_of_sep (h a List.mem_cons_self),
        ih fun b hb => h b (List.mem_cons_of_mem a hb)]

/-- Separators at the ends do not matter. -/
theorem words_strip (l : List α) : words sep (strip sep l) = words sep l := by
  have hright : words sep (strip sep l) = words sep (l.dropWhile sep) := by
    rw [← List.rdropWhile_append_rtakeWhile (p := sep) (l := l.dropWhile sep),
      words_append_of_sep _ fun a ha => List.mem_rtakeWhile_imp ha]
    rfl
  have hleft : words sep (l.dropWhile sep) = words sep l := by
    conv_rhs => rw [← List.takeWhile_append_dropWhile (p := sep) (l := l)]
    rw [words_sep_append _ fun a ha => List.mem_takeWhile_imp ha]
  rw [hright, hleft]

theorem sep_of_strip_eq_cons (h : strip sep l = a :: m) : sep a = false := by
  obtain ⟨n, hn⟩ := List.rdropWhile_prefix sep (l := l.dropWhile sep)
  have hdrop : l.dropWhile sep = a :: (m ++ n) := by
    rw [← hn, show (l.dropWhile sep).rdropWhile sep = a :: m from h, List.cons_append]
  have hhead := List.head_dropWhile_not sep (l := l) (by rw [hdrop]; exact List.cons_ne_nil _ _)
  simpa [hdrop] using hhead

theorem words_of_strip_eq_cons (h : strip sep l = a :: m) :
    ∃ w ws, words sep l = (a :: w) :: ws := by
  rw [← words_strip, h]
  exact words_cons_of_not_sep (sep_of_strip_eq_cons h) m

theorem words_of_strip_eq_nil (h : strip sep l = []) : words sep l = [] := by
  rw [← words_strip, h, words_nil]

section Render

structure IsWord (sep : α → Bool) (w : List α) : Prop where
  ne_nil : w ≠ []
  not_sep : ∀ a ∈ w, sep a = false

structure IsGap (sep : α → Bool) (g : List α) : Prop where
  ne_nil : g ≠ []
  sep : ∀ a ∈ g, sep a = true

/-- Words written one after the other, each behind its gap. -/
def render (items : List (List α × List α)) : List α := items.flatMap fun item => item.1 ++ item.2

theorem IsWord.words {w : List α} (h : IsWord sep w) : words sep w = [w] := by
  have hsplit := List.splitOnP_eq_singleton h.not_sep
  have hne := h.ne_nil
  rw [Words.words, hsplit]
  simp [hne]

theorem words_append_gap {g : List α} (l m : List α) (h : IsGap sep g) :
    words sep (l ++ (g ++ m)) = words sep l ++ words sep m := by
  obtain ⟨a, g, rfl⟩ := List.exists_cons_of_ne_nil h.ne_nil
  rw [List.cons_append, words_append_cons l (g ++ m) (h.sep a List.mem_cons_self),
    words_sep_append m fun b hb => h.sep b (List.mem_cons_of_mem a hb)]

theorem words_append_render {items : List (List α × List α)}
    (h : ∀ item ∈ items, IsGap sep item.1 ∧ IsWord sep item.2) (l : List α) :
    words sep (l ++ render items) = words sep l ++ items.map Prod.snd := by
  induction items generalizing l with
  | nil => simp [render]
  | cons item items ih =>
      obtain ⟨hgap, hword⟩ := h item List.mem_cons_self
      have hrest := ih (fun i hi => h i (List.mem_cons_of_mem item hi)) (l ++ (item.1 ++ item.2))
      calc words sep (l ++ render (item :: items))
          = words sep (l ++ (item.1 ++ item.2) ++ render items) := by
            rw [render, List.flatMap_cons, ← List.append_assoc, render]
        _ = words sep l ++ [item.2] ++ items.map Prod.snd := by
            rw [hrest, words_append_gap l item.2 hgap, hword.words]
        _ = words sep l ++ (item :: items).map Prod.snd := by
            rw [List.append_assoc, List.map_cons, List.singleton_append]

end Render

end Words
