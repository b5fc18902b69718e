import Admission.Proofs.Text.Quoted
import Admission.Proofs.Text.SingleLine
import Admission.Settings.SkipList

set_option autoImplicit false

/-!
# The grammar of skip lists

A written list is blank, or it is items with single commas between them.  An item is a
name between double quotes with blanks around it, or a run of characters without commas
and quotes, whose outer blanks do not count.  The main statement is that these are the
lists that are read, with these names; so names that are quoted are read back as they are.
-/

namespace Admission

namespace Text

theorem trimStart_append {blanks : List Char} (hblanks : isAllBlank blanks = true)
    (cs : List Char) : trimStart (blanks ++ cs) = trimStart cs :=
  List.dropWhile_append_of_pos (List.all_eq_true.mp hblanks)

/-- What is trimmed off in front is blank. -/
theorem exists_blanks (cs : List Char) :
    ∃ blanks : List Char, isAllBlank blanks = true ∧ cs = blanks ++ trimStart cs :=
  ⟨cs.takeWhile isBlank, List.all_takeWhile, List.takeWhile_append_dropWhile.symm⟩

/-- A character that is not blank stops the trimming. -/
theorem trimStart_cons {c : Char} (hc : isBlank c = false) (cs : List Char) :
    trimStart (c :: cs) = c :: cs := by
  simp [trimStart, hc]

/-- What follows a text that is not blank does not change what is trimmed off in front. -/
theorem trimStart_append_of_ne_nil {run : List Char} (hrun : trimStart run ≠ [])
    (rest : List Char) : trimStart (run ++ rest) = trimStart run ++ rest := by
  induction run with
  | nil => exact absurd rfl hrun
  | cons c run ih =>
    cases hc : isBlank c with
    | true =>
      have hstep (cs : List Char) : trimStart (c :: cs) = trimStart cs := by simp [trimStart, hc]
      rw [hstep] at hrun
      rw [List.cons_append, hstep, hstep, ih hrun]
    | false => rw [List.cons_append, trimStart_cons hc, trimStart_cons hc, List.cons_append]

theorem trimStart_ne_nil_of_trim {cs : List Char} (h : trim cs ≠ []) : trimStart cs ≠ [] := by
  intro hnil
  rw [trim, hnil] at h
  exact h rfl

/-- A blank is neither a comma nor a quote. -/
theorem not_mem_of_isAllBlank {blanks : List Char} (hblanks : isAllBlank blanks = true) {c : Char}
    (hc : isBlank c = false) : c ∉ blanks := by
  intro hmem
  rw [List.all_eq_true.mp hblanks c hmem] at hc
  cases hc

end Text

namespace SkipList

open Text

/-! ## The grammar -/

/-- A name with every quote in it written twice. -/
abbrev doubledQuotes (name : List Char) : List Char :=
  doubled (· = '"') name

/-- What may stand between two commas, and the name it is for. -/
inductive Item : List Char → List Char → Prop where
  /-- A name between double quotes, with blanks around it. -/
  | quoted {before name after : List Char} (hbefore : isAllBlank before = true)
      (hname : name ≠ []) (hafter : isAllBlank after = true) :
      Item (before ++ '"' :: doubledQuotes name ++ '"' :: after) name
  /-- A run of other characters, without the blanks around it. -/
  | plain {run : List Char} (hcomma : ',' ∉ run) (hquote : '"' ∉ run) (hname : trim run ≠ []) :
      Item run (trim run)

/-- Items with single commas between them, and their names. -/
inductive Written : List Char → List (List Char) → Prop where
  | last {text name : List Char} (h : Item text name) : Written text [name]
  | more {text name rest : List Char} {names : List (List Char)} (h : Item text name)
      (hrest : Written rest names) : Written (text ++ ',' :: rest) (name :: names)

/-- The text is over, or a comma follows. -/
def Ends (rest : List Char) : Prop :=
  rest = [] ∨ ∃ more : List Char, rest = ',' :: more

theorem Ends.head_ne {rest : List Char} (h : Ends rest) {c : Char} (hc : c ≠ ',') :
    rest.head? ≠ some c := by
  rcases h with rfl | ⟨more, rfl⟩
  · simp
  · simpa using fun heq : ',' = c => hc heq.symm

/-- At the end of an item nothing is trimmed off. -/
theorem Ends.trimStart_eq {rest : List Char} (h : Ends rest) : trimStart rest = rest := by
  rcases h with rfl | ⟨more, rfl⟩
  · rfl
  · exact trimStart_cons (by decide) more

/-! ## Quoted names -/

/-- A quoted name is read as any text in which quotes are doubled. -/
theorem quotedBody?_eq (cs : List Char) : quotedBody? cs = quotedText? (· = '"') cs := by
  fun_induction quotedBody? cs with
  | case1 => rfl
  | case2 cs ih => rw [ih, quotedText?_doubled (by rfl)]
  | case3 cs hnext =>
    refine (quotedText?_close (by rfl) fun hhead => ?_).symm
    obtain ⟨more, hmore⟩ := List.head?_eq_some_iff.mp hhead
    exact hnext more rfl hmore
  | case4 c cs _ hc ih => rw [ih, quotedText?_once (by simpa using hc) (by rfl)]

/-- A name with its quotes doubled reads back, up to the quote that stands alone. -/
theorem quotedBody?_complete (name : List Char) {rest : List Char}
    (hrest : rest.head? ≠ some '"') :
    quotedBody? (doubledQuotes name ++ '"' :: rest) = some (name, rest) := by
  rw [quotedBody?_eq]
  exact quotedText?_complete (by rfl) (between_doubled _ name) hrest

/-- Only a name with its quotes doubled is read, up to a quote. -/
theorem quotedBody?_sound {cs name rest : List Char} (h : quotedBody? cs = some (name, rest)) :
    cs = doubledQuotes name ++ '"' :: rest := by
  rw [quotedBody?_eq] at h
  obtain ⟨written, hcs, hbetween, -⟩ := quotedText?_sound h
  rw [hcs, hbetween.eq_doubled]

/-! ## One item -/

theorem plainName_append {run rest : List Char} (hcomma : ',' ∉ run) (hrest : Ends rest) :
    plainName (run ++ rest) = run ∧ afterPlain (run ++ rest) = rest := by
  have hrun : ∀ c ∈ run, (decide (c ≠ ',')) = true := by
    intro c hc
    exact decide_eq_true fun heq => hcomma (heq ▸ hc)
  refine span_run hrun fun c hc => ?_
  rcases hrest with rfl | ⟨more, rfl⟩
  · cases hc
  · cases hc
    rfl

/-- A name between quotes is read, up to where its item ends. -/
theorem item_quoted {before name after rest : List Char} (hbefore : isAllBlank before = true)
    (hafter : isAllBlank after = true) (hrest : Ends rest) :
    item (before ++ '"' :: doubledQuotes name ++ '"' :: after ++ rest) = .ok (name, rest) := by
  have hquote : isBlank '"' = false := by decide
  have hclose : (after ++ rest).head? ≠ some '"' := by
    cases after with
    | nil => exact hrest.head_ne (by decide)
    | cons c after =>
      intro hhead
      exact not_mem_of_isAllBlank hafter hquote (by simp_all)
  have htrim : trimStart (before ++ '"' :: doubledQuotes name ++ '"' :: after ++ rest) =
      '"' :: (doubledQuotes name ++ '"' :: (after ++ rest)) := by
    simp only [List.append_assoc, List.cons_append]
    rw [trimStart_append hbefore, trimStart_cons hquote]
  simp only [item, htrim, quotedBody?_complete name hclose, trimStart_append hafter,
    hrest.trimStart_eq]

/-- A run without commas and quotes is read without its outer blanks. -/
theorem item_plain {run rest : List Char} (hcomma : ',' ∉ run) (hquote : '"' ∉ run)
    (hname : trim run ≠ []) (hrest : Ends rest) : item (run ++ rest) = .ok (trim run, rest) := by
  have hstart := trimStart_ne_nil_of_trim hname
  have hsublist : (trimStart run).Sublist run := List.dropWhile_sublist _
  have hcomma' : ',' ∉ trimStart run := fun hmem => hcomma (hsublist.subset hmem)
  have hquote' : '"' ∉ trimStart run := fun hmem => hquote (hsublist.subset hmem)
  obtain ⟨hbody, hafter⟩ := plainName_append hcomma' hrest
  have htrim := trimStart_append_of_ne_nil hstart rest
  unfold item
  split
  · rename_i body hopen
    obtain ⟨c, cs, hrun⟩ := List.exists_cons_of_ne_nil hstart
    rw [htrim, hrun, List.cons_append] at hopen
    rw [hrun, (List.cons.inj hopen).1] at hquote'
    exact absurd List.mem_cons_self hquote'
  · rw [htrim, hbody, hafter, if_neg (by simpa using hquote')]
    rfl

/-- An item of the grammar is read with its name, up to where it ends. -/
theorem item_complete {text name rest : List Char} (h : Item text name) (hrest : Ends rest) :
    item (text ++ rest) = .ok (name, rest) := by
  cases h with
  | quoted hbefore _ hafter => exact item_quoted hbefore hafter hrest
  | plain hcomma hquote hname => exact item_plain hcomma hquote hname hrest

/-- The characters of an unquoted name begin with no blank when those it is read from do not. -/
theorem trimStart_plainName (cs : List Char) :
    trimStart (plainName (trimStart cs)) = plainName (trimStart cs) := by
  apply dropWhile_eq_self
  intro c hc
  apply head?_trimStart cs
  have hsplit : plainName (trimStart cs) ++ afterPlain (trimStart cs) = trimStart cs :=
    List.takeWhile_append_dropWhile
  rw [← hsplit, List.head?_append, hc]
  rfl

/-- What is read as an item is one of the grammar, if it has a name. -/
theorem item_sound {cs name rest : List Char} (h : item cs = .ok (name, rest))
    (hname : name ≠ []) : ∃ text : List Char, cs = text ++ rest ∧ Item text name := by
  obtain ⟨before, hbefore, hcs⟩ := exists_blanks cs
  unfold item at h
  split at h
  · rename_i body hopen
    split at h
    · cases h
    · rename_i read after hread
      cases h
      obtain ⟨blanks, hblanks, hafter⟩ := exists_blanks after
      refine ⟨before ++ '"' :: doubledQuotes name ++ '"' :: blanks, ?_,
        .quoted hbefore hname hblanks⟩
      calc cs = before ++ '"' :: body := by rw [← hopen, ← hcs]
        _ = before ++ '"' :: (doubledQuotes name ++ '"' :: (blanks ++ trimStart after)) := by
          rw [← hafter, ← quotedBody?_sound hread]
        _ = before ++ '"' :: doubledQuotes name ++ '"' :: blanks ++ trimStart after := by simp
  · split at h
    · cases h
    · rename_i hquote
      cases h
      have htrim : trim (before ++ plainName (trimStart cs)) =
          trimEnd (plainName (trimStart cs)) := by
        rw [trim, trimStart_append hbefore, trimStart_plainName]
      refine ⟨before ++ plainName (trimStart cs), ?_, ?_⟩
      · rw [List.append_assoc, plainName, afterPlain, List.takeWhile_append_dropWhile]
        exact hcs
      · rw [← htrim] at hname ⊢
        refine .plain ?_ ?_ hname
        · rw [List.mem_append, not_or]
          refine ⟨not_mem_of_isAllBlank hbefore (by decide), fun hmem => ?_⟩
          simpa using List.all_eq_true.mp List.all_takeWhile _ hmem
        · rw [List.mem_append, not_or]
          exact ⟨not_mem_of_isAllBlank hbefore (by decide), by simpa using hquote⟩

/-! ## The whole list -/

/-- Of a list of the grammar all names are read. -/
theorem items_complete {cs : List Char} {names : List (List Char)} (h : Written cs names) :
    items cs = .ok names := by
  have hname {text name : List Char} (hitem : Item text name) : name.isEmpty = false := by
    cases hitem with
    | quoted _ hname _ => simpa using hname
    | plain _ _ hname => simpa using hname
  induction h with
  | @last text name hitem =>
    have hread := item_complete hitem (.inl rfl)
    rw [List.append_nil] at hread
    unfold items
    split
    · simp_all
    · rename_i read rest heq
      rw [hread] at heq
      cases heq
      simp [hname hitem]
  | @more text name rest names hitem hrest ih =>
    have hends : Ends (',' :: rest) := .inr ⟨rest, rfl⟩
    have hread := item_complete hitem hends
    unfold items
    split
    · simp_all
    · rename_i read after heq
      rw [hread] at heq
      cases heq
      simp [hname hitem, ih, Except.map]

/-- A list that is read is one of the grammar, with the names that are read. -/
theorem items_sound {cs : List Char} {names : List (List Char)} (h : items cs = .ok names) :
    Written cs names := by
  fun_induction items cs generalizing names with
  | case1 cs flaw hitem => cases h
  | case2 cs name rest hitem hname => cases h
  | case3 cs name hname _ hitem =>
    cases h
    obtain ⟨text, hcs, hitem⟩ := item_sound hitem (by simpa using hname)
    rw [hcs, List.append_nil]
    exact .last hitem
  | case4 cs name hname rest _ hitem _ _ ih =>
    obtain ⟨text, hcs, hitem⟩ := item_sound hitem (by simpa using hname)
    cases hrest : items rest with
    | error flaw => rw [hrest] at h; cases h
    | ok others =>
      rw [hrest] at h
      cases h
      rw [hcs]
      exact .more hitem (ih hrest)
  | case5 => cases h

theorem items_eq_ok_iff {cs : List Char} {names : List (List Char)} :
    items cs = .ok names ↔ Written cs names :=
  ⟨items_sound, items_complete⟩

/-- A list of the grammar is not blank. -/
theorem Written.not_blank {cs : List Char} {names : List (List Char)} (h : Written cs names) :
    isAllBlank cs = false := by
  have hmem {c : Char} (hc : isBlank c = false) (hin : c ∈ cs) : isAllBlank cs = false := by
    cases hblank : isAllBlank cs with
    | true => exact absurd hin (not_mem_of_isAllBlank hblank hc)
    | false => rfl
  cases h with
  | last hitem =>
    cases hitem with
    | quoted => exact hmem (c := '"') (by decide) (by simp)
    | plain _ _ hname =>
      cases hblank : isAllBlank cs with
      | true => exact absurd ((trimStart_eq_nil_iff cs).mpr hblank) (trimStart_ne_nil_of_trim hname)
      | false => rfl
  | more => exact hmem (c := ',') (by decide) (by simp)

/-- The lists that are read are the blank ones and those of the grammar. -/
theorem parse_eq_ok_iff (setting raw : String) (l : SkipList) :
    parse setting raw = .ok l ↔
      (isAllBlank raw.toList = true ∧ l = empty) ∨
        ∃ names : List (List Char), Written raw.toList names ∧
          l.entries = names.map String.ofList := by
  cases hblank : isAllBlank raw.toList with
  | true =>
    have hnot : ¬∃ names : List (List Char),
        Written raw.toList names ∧ l.entries = names.map String.ofList := by
      rintro ⟨names, hwritten, -⟩
      rw [hwritten.not_blank] at hblank
      cases hblank
    simp [parse, hblank, hnot, eq_comm]
  | false =>
    simp only [parse, hblank, Bool.false_eq_true, if_false, false_and, false_or]
    constructor
    · intro h
      split at h
      · rename_i names hitems
        cases h
        exact ⟨names, items_eq_ok_iff.mp hitems, rfl⟩
      · cases h
    · rintro ⟨names, hwritten, hentries⟩
      rw [items_eq_ok_iff.mpr hwritten]
      cases l
      simp_all

/-! ## Names written between quotes -/

/-- A name to be written between quotes, and the blanks to be left around it. -/
structure QuotedName where
  name : String
  before : List Char
  after : List Char
  name_ne : name ≠ ""
  before_blank : isAllBlank before = true
  after_blank : isAllBlank after = true

/-- The name between quotes, with its own quotes doubled. -/
def QuotedName.text (q : QuotedName) : List Char :=
  q.before ++ quotedDoubling (· = '"') q.name.toList ++ q.after

theorem QuotedName.item (q : QuotedName) : Item q.text q.name.toList := by
  have hname : q.name.toList ≠ [] := by
    intro hnil
    exact q.name_ne (String.toList_eq_nil_iff.mp hnil)
  have hitem := Item.quoted q.before_blank hname q.after_blank
  simpa [QuotedName.text, quotedDoubling] using hitem

/-- Names between quotes, with commas between them. -/
def quotedList (qs : List QuotedName) : String :=
  String.ofList ([','].intercalate (qs.map QuotedName.text))

example :
    quotedList [⟨"ada", [' '], [], by decide, rfl, rfl⟩,
        ⟨"a \"b\", c", [], ['\t'], by decide, rfl, rfl⟩] =
      " \"ada\",\"a \"\"b\"\", c\"\t" := by
  rfl

theorem written_quotedList (q : QuotedName) (qs : List QuotedName) :
    Written (quotedList (q :: qs)).toList ((q :: qs).map (·.name.toList)) := by
  rw [quotedList, String.toList_ofList]
  induction qs generalizing q with
  | nil => simpa using Written.last q.item
  | cons next qs ih => simpa using Written.more q.item (ih next)

/-- **The grammar of skip lists.**  A list is read exactly if it is blank, with no name, or of
the grammar, with the names of its items; names that are quoted, at least one, are read back as
they are, and those are the names the list contains. -/
theorem parse_grammar (setting : String) :
    (∀ (raw : String) (l : SkipList),
      parse setting raw = .ok l ↔
        (isAllBlank raw.toList = true ∧ l = empty) ∨
          ∃ names : List (List Char),
            Written raw.toList names ∧ l.entries = names.map String.ofList) ∧
    ∀ (q : QuotedName) (qs : List QuotedName),
      ∃ l : SkipList,
        parse setting (quotedList (q :: qs)) = .ok l ∧
          l.entries = (q :: qs).map (·.name) ∧
          ∀ name : String, l.contains name = true ↔ name ∈ (q :: qs).map (·.name) := by
  refine ⟨parse_eq_ok_iff setting, fun q qs => ?_⟩
  have hread : parse setting (quotedList (q :: qs)) = .ok ⟨(q :: qs).map (·.name)⟩ := by
    rw [parse_eq_ok_iff]
    refine .inr ⟨(q :: qs).map (·.name.toList), written_quotedList q qs, ?_⟩
    simp
  exact ⟨_, hread, rfl, fun name => contains_iff⟩

end SkipList

end Admission
