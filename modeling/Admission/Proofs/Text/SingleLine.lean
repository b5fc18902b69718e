import Admission.Text.SingleLine

set_option autoImplicit false

/-!
# Folding once

A text is neat when it holds no line feed and neither begins nor ends with a blank.
Neat texts are left alone by trimming and by folding, and folding makes every text
neat, so a message that is folded twice is folded once.  Folding loses blanks alone:
the other characters of a text, its ink, are all there afterwards, in their order.
-/

namespace Admission.Text

/-! ## Neat texts -/

/-- The text is on one line, with no blank at either end. -/
structure Neat (cs : List Char) : Prop where
  newline : '\n' ∉ cs
  head : ∀ c : Char, cs.head? = some c → isBlank c = false
  last : ∀ c : Char, cs.getLast? = some c → isBlank c = false

theorem dropWhile_eq_self {p : Char → Bool} {cs : List Char}
    (h : ∀ c : Char, cs.head? = some c → p c = false) : cs.dropWhile p = cs := by
  cases cs with
  | nil => rfl
  | cons c cs => rw [List.dropWhile_cons, h c rfl, if_neg (by decide)]

namespace Neat

variable {cs : List Char}

theorem trim_eq (h : Neat cs) : trim cs = cs := by
  have hend : cs.reverse.dropWhile isBlank = cs.reverse :=
    dropWhile_eq_self fun c hc => h.last c (by rwa [List.head?_reverse] at hc)
  rw [trim, trimStart, dropWhile_eq_self h.head, trimEnd, hend, List.reverse_reverse]

/-- Two neat texts with something in both, joined by a space. -/
theorem join {front back : List Char} (hf : Neat front) (hb : Neat back) (hfront : front ≠ [])
    (hback : back ≠ []) : Neat (front ++ [' '] ++ back) := by
  refine ⟨?_, fun c hc => hf.head c ?_, fun c hc => hb.last c ?_⟩
  · simp [hf.newline, hb.newline]
  · obtain ⟨first, rest, rfl⟩ := List.exists_cons_of_ne_nil hfront
    exact hc
  · rw [List.getLast?_append, List.getLast?_eq_some_getLast hback] at hc
    rw [List.getLast?_eq_some_getLast hback]
    exact hc

end Neat

/-! ## Trimmed lines -/

theorem mem_consLine {c : Char} {ls : List (List Char)} (h : ∀ line ∈ ls, '\n' ∉ line) :
    ∀ line ∈ consLine c ls, '\n' ∉ line := by
  intro line hline
  unfold consLine at hline
  split at hline
  · rcases List.mem_cons.mp hline with rfl | hline
    · exact List.not_mem_nil
    · exact h line hline
  · rename_i hc
    cases ls with
    | nil =>
      rw [List.mem_singleton.mp hline, List.mem_singleton]
      exact fun heq => hc heq.symm
    | cons first rest =>
      rcases List.mem_cons.mp hline with rfl | hline
      · rw [List.mem_cons, not_or]
        exact ⟨fun heq => hc heq.symm, h first List.mem_cons_self⟩
      · exact h line (List.mem_cons_of_mem _ hline)

theorem newline_not_mem_of_mem_lines (cs : List Char) : ∀ line ∈ lines cs, '\n' ∉ line := by
  induction cs with
  | nil => simp
  | cons c cs ih => exact mem_consLine ih

theorem lines_of_not_mem {cs : List Char} (h : '\n' ∉ cs) : lines cs = [cs] := by
  induction cs with
  | nil => rfl
  | cons c cs ih =>
    rw [List.mem_cons, not_or] at h
    rw [lines_cons, ih h.2, consLine, if_neg fun heq => h.1 heq.symm]

theorem mem_of_mem_trim {c : Char} {cs : List Char} (h : c ∈ trim cs) : c ∈ cs := by
  have hend : c ∈ trimStart cs :=
    List.mem_reverse.mp ((List.dropWhile_sublist _).mem (List.mem_reverse.mp h))
  exact (List.dropWhile_sublist _).mem hend

theorem neat_trim {cs : List Char} (h : '\n' ∉ cs) : Neat (trim cs) := by
  refine ⟨fun hmem => h (mem_of_mem_trim hmem), fun c hc => ?_, fun c hc => getLast?_trimEnd _ hc⟩
  -- Trimming the end takes no character off the front unless it takes them all.
  have hbegins : trim cs <+: trimStart cs := by
    have hsuffix := List.reverse_prefix.mpr
      (List.dropWhile_suffix (l := (trimStart cs).reverse) isBlank)
    rwa [List.reverse_reverse] at hsuffix
  obtain ⟨rest, hrest⟩ := hbegins
  refine head?_trimStart cs ?_
  rw [← hrest, List.head?_append, hc]
  rfl

/-! ## Folding -/

theorem neat_joinWithSpace {ls : List (List Char)} (h : ∀ line ∈ ls, Neat line ∧ line ≠ []) :
    Neat (joinWithSpace ls) ∧ (ls ≠ [] → joinWithSpace ls ≠ []) := by
  induction ls with
  | nil => exact ⟨⟨List.not_mem_nil, nofun, nofun⟩, fun h => absurd rfl h⟩
  | cons line rest ih =>
    obtain ⟨hneat, hne⟩ := h line List.mem_cons_self
    obtain ⟨ihneat, ihne⟩ := ih fun l hl => h l (List.mem_cons_of_mem _ hl)
    cases rest with
    | nil =>
      rw [joinWithSpace, List.intercalate_singleton]
      exact ⟨hneat, fun _ => hne⟩
    | cons next rest =>
      rw [joinWithSpace, List.intercalate_cons_cons]
      exact ⟨hneat.join ihneat hne (ihne (List.cons_ne_nil _ _)), fun _ => by simp⟩

theorem neat_fold (cs : List Char) : Neat (fold cs) := by
  refine (neat_joinWithSpace fun line hline => ?_).1
  obtain ⟨hmem, hne⟩ := List.mem_filter.mp hline
  obtain ⟨raw, hraw, rfl⟩ := List.mem_map.mp hmem
  exact ⟨neat_trim (newline_not_mem_of_mem_lines cs raw hraw), by simpa using hne⟩

/-- A neat text is folded already. -/
theorem fold_of_neat {cs : List Char} (h : Neat cs) : fold cs = cs := by
  rw [fold, lines_of_not_mem h.newline, List.map_singleton, h.trim_eq]
  cases cs with
  | nil => rfl
  | cons c cs => exact List.intercalate_singleton

theorem neat_singleLine (s : String) : Neat (singleLine s).toList := by
  simp only [singleLine]
  split
  · exact ⟨by decide, by rintro _ ⟨⟩; rfl, by rintro _ ⟨⟩; rfl⟩
  · rw [String.toList_ofList]
    exact neat_fold s.toList

theorem singleLine_ne_empty (s : String) : (singleLine s).toList ≠ [] := by
  simp only [singleLine]
  split
  · decide
  · rename_i h
    rw [String.toList_ofList]
    simpa using h

/-- A message that is folded twice is folded once. -/
@[simp] theorem singleLine_singleLine (s : String) : singleLine (singleLine s) = singleLine s := by
  have hfold := fold_of_neat (neat_singleLine s)
  have hne := singleLine_ne_empty s
  rw [singleLine, hfold]
  simp [hne]

/-! ## Ink -/

/-- The characters of a text that are not blank, in their order. -/
def ink (cs : List Char) : List Char :=
  cs.filter fun c => !isBlank c

@[simp] theorem ink_nil : ink [] = [] := rfl

@[simp] theorem ink_append (front back : List Char) :
    ink (front ++ back) = ink front ++ ink back :=
  List.filter_append front back

theorem ink_cons (c : Char) (cs : List Char) : ink (c :: cs) = ink [c] ++ ink cs :=
  ink_append [c] cs

theorem ink_reverse (cs : List Char) : ink cs.reverse = (ink cs).reverse :=
  List.filter_reverse

theorem ink_trimStart (cs : List Char) : ink (trimStart cs) = ink cs := by
  have hfront : ink (cs.takeWhile isBlank) = [] := by
    have hblank := List.all_eq_true.mp (List.all_takeWhile (p := isBlank) (l := cs))
    rw [ink, List.filter_eq_nil_iff]
    intro c hc
    simp [hblank c hc]
  calc ink (trimStart cs)
      = ink (cs.takeWhile isBlank) ++ ink (cs.dropWhile isBlank) := by rw [hfront]; rfl
    _ = ink cs := by rw [← ink_append, List.takeWhile_append_dropWhile]

/-- Trimming takes nothing but blanks away. -/
theorem ink_trim (cs : List Char) : ink (trim cs) = ink cs := by
  have hend : ink (trim cs).reverse = ink (trimStart cs).reverse := by
    rw [trim, trimEnd, List.reverse_reverse]
    exact ink_trimStart _
  rw [ink_reverse, ink_reverse, ink_trimStart] at hend
  exact List.reverse_inj.mp hend

theorem ink_consLine (c : Char) (ls : List (List Char)) :
    ((consLine c ls).map ink).flatten = ink [c] ++ (ls.map ink).flatten := by
  unfold consLine
  split
  · rename_i hc
    subst hc
    rfl
  · cases ls with
    | nil => simp
    | cons line rest => simp [ink_cons c line]

/-- A line feed is a blank, so the lines of a text have its ink. -/
theorem ink_lines (cs : List Char) : ((lines cs).map ink).flatten = ink cs := by
  induction cs with
  | nil => rfl
  | cons c cs ih => rw [lines_cons, ink_consLine, ih, ← ink_cons]

theorem ink_joinWithSpace (ls : List (List Char)) :
    ink (joinWithSpace ls) = (ls.map ink).flatten := by
  induction ls with
  | nil => rfl
  | cons line rest ih =>
    cases rest with
    | nil => simp [joinWithSpace]
    | cons next rest =>
      have hspace : ink [' '] = [] := by decide
      rw [joinWithSpace] at ih ⊢
      rw [List.intercalate_cons_cons, ink_append, ink_append, hspace, List.append_nil, ih]
      rfl

/-- Folding takes nothing but blanks away. -/
theorem ink_fold (cs : List Char) : ink (fold cs) = ink cs := by
  have hdropped (ls : List (List Char)) :
      ((ls.filter fun line => !line.isEmpty).map ink).flatten = (ls.map ink).flatten := by
    induction ls with
    | nil => rfl
    | cons line rest ih => cases line <;> simp [ih]
  calc ink (fold cs)
      = (((lines cs).map trim).map ink).flatten := by rw [fold, ink_joinWithSpace, hdropped]
    _ = ((lines cs).map ink).flatten := by
        rw [List.map_map]
        exact congrArg List.flatten (List.map_congr_left fun line _ => ink_trim line)
    _ = ink cs := ink_lines cs

/-- A neat text that is there has ink. -/
theorem Neat.ink_ne_nil {cs : List Char} (h : Neat cs) (hne : cs ≠ []) : ink cs ≠ [] := by
  obtain ⟨c, rest, rfl⟩ := List.exists_cons_of_ne_nil hne
  have hc : isBlank c = false := h.head c rfl
  simp [ink, hc]

/-- Only a text without ink folds to nothing. -/
theorem fold_eq_nil_iff (cs : List Char) : fold cs = [] ↔ ink cs = [] := by
  rw [← ink_fold]
  constructor
  · intro hnil
    rw [hnil, ink_nil]
  · intro hblank
    exact Classical.not_not.mp fun hne => (neat_fold cs).ink_ne_nil hne hblank

/-- `text` is `raw` put on one line: neat, not empty, as it is for good, and with the ink of
`raw`, or the fallback where that has none. -/
structure PutOnLine (raw text : String) : Prop where
  ne_empty : text ≠ ""
  neat : Neat text.toList
  settled : singleLine text = text
  ink_eq : ink raw.toList ≠ [] → ink text.toList = ink raw.toList
  fallback : ink raw.toList = [] → text = emptyRejection

theorem putOnLine_singleLine (raw : String) : PutOnLine raw (singleLine raw) where
  ne_empty h := singleLine_ne_empty raw (by rw [h]; rfl)
  neat := neat_singleLine raw
  settled := singleLine_singleLine raw
  ink_eq h := by
    have hfold : fold raw.toList ≠ [] := mt (fold_eq_nil_iff raw.toList).mp h
    simp only [singleLine, List.isEmpty_iff, if_neg hfold]
    rw [String.toList_ofList, ink_fold]
  fallback h := by
    have hfold : fold raw.toList = [] := (fold_eq_nil_iff raw.toList).mpr h
    simp only [singleLine, hfold]
    rfl

end Admission.Text
