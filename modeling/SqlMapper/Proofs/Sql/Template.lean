import Mathlib.Data.List.Forall2
import SqlMapper.Proofs.Maintains
import SqlMapper.Proofs.Text.Trim
import SqlMapper.Sql.Template
import SqlMapper.Text.Split

namespace SqlMapper.Template

open Text

/-- Text in which no placeholder starts. -/
def Literal (text : List Char) : Prop := ¬ ['#', '{'] <:+: text

/-- Text that ends no part of a placeholder. -/
def Plain (part : List Char) : Prop := ',' ∉ part ∧ '}' ∉ part

def modeWord : ParameterMode → String
  | .input => "IN"
  | .output => "OUT"
  | .inOut => "INOUT"

inductive OptionText : List Char → Option ParameterMode → Prop where
  | mode {key value word : List Char} {mode : ParameterMode} (hkey : Trimmed "mode".toList key)
      (hvalue : Trimmed word value) (hword : word.map Char.toUpper = (modeWord mode).toList) :
      OptionText (key ++ '=' :: value) (some mode)
  | hint {key value : List Char} {name : String} (hname : name = "jdbcType" ∨ name = "javaType")
      (hkey : Trimmed name.toList key) (hvalue : Plain value) :
      OptionText (key ++ '=' :: value) none

structure Slot where
  property : List Char
  options : List (List Char)

namespace Slot

def content (s : Slot) : List Char := List.intercalate [','] (s.property :: s.options)

def text (s : Slot) : List Char := '#' :: '{' :: (s.content ++ ['}'])

def Separate (s : Slot) : Prop := ∀ part ∈ s.property :: s.options, Plain part

/-- A slot stands for a placeholder of its property and of the last mode that its options say. -/
structure StandsFor (s : Slot) (p : Placeholder) : Prop where
  property : Trimmed p.property.toList s.property
  named : p.property ≠ ""
  plain : Plain s.property
  mode : ∃ said, List.Forall₂ OptionText s.options said ∧
    p.mode = (said.filterMap id).getLast?.getD .input

end Slot

/-- A template that is made of literals and slots, with its text and its placeholders. -/
inductive Written : List Char → List Char → List Placeholder → Prop where
  | literal {lit : List Char} (hlit : Literal lit) : Written lit lit []
  | slot {lit text sql : List Char} {s : Slot} {p : Placeholder} {placeholders : List Placeholder}
      (hlit : Literal lit) (hs : s.StandsFor p) (h : Written text sql placeholders) :
      Written (lit ++ s.text ++ text) (lit ++ '?' :: sql) (p :: placeholders)

inductive BadOption (template : String) : List Char → ConfigFault → Prop where
  | malformed {option shown : List Char} (h : '=' ∉ option) (hshown : Trimmed shown option) :
      BadOption template option (.malformedOption (String.ofList shown) template)
  | unknown {option shown : List Char} (h : '=' ∈ option) (hnone : ∀ said, ¬ OptionText option said)
      (hshown : Trimmed shown option) :
      BadOption template option (.unknownOption (String.ofList shown) template)

/-- What is wrong with the slot that a text starts with: that it is not closed, that it has no
property, or its first bad option. -/
inductive Offends (template : String) : List Char → ConfigFault → Prop where
  | unterminated {rest : List Char} (h : '}' ∉ rest) :
      Offends template ('#' :: '{' :: rest) (.unterminatedPlaceholder template)
  | property {s : Slot} {rest : List Char} (hs : s.Separate)
      (h : ∀ c ∈ s.property, isBlank c = true) :
      Offends template (s.text ++ rest) (.emptyProperty template)
  | option {s : Slot} {good later : List (List Char)} {bad rest : List Char} {fault : ConfigFault}
      {said : List (Option ParameterMode)} (hs : s.Separate)
      (hproperty : ¬ ∀ c ∈ s.property, isBlank c = true)
      (hoptions : s.options = good ++ bad :: later) (hgood : List.Forall₂ OptionText good said)
      (hbad : BadOption template bad fault) : Offends template (s.text ++ rest) fault

variable {template : String} {mode : ParameterMode}

theorem modeNamed_eq_some_iff {name : String} :
    modeNamed name = some mode ↔ name = modeWord mode := by
  constructor
  · intro h
    unfold modeNamed at h
    split at h <;> cases h <;> rfl
  · rintro rfl
    cases mode <;> rfl

theorem readOption_trim {key : List Char} (h : '=' ∉ key) (value : List Char) :
    readOption template mode (trim (key ++ '=' :: value)) =
      if String.ofList (trim key) = "jdbcType" ∨ String.ofList (trim key) = "javaType" then .ok mode
      else
        let named := if String.ofList (trim key) = "mode" then
          modeNamed (asciiUpper (String.ofList (trim value))) else none
        named.elim
          (.error (.unknownOption (String.ofList (trim (key ++ '=' :: value))) template)) .ok := by
  have hsplit : splitOnce '=' (trim (key ++ '=' :: value)) =
      (key.dropWhile isBlank, some (value.rdropWhile isBlank)) := by
    rw [trim_append_cons (by decide), splitOnce_append]
    exact fun hmem => h ((List.dropWhile_sublist _).mem hmem)
  unfold readOption
  rw [hsplit]
  dsimp only
  rw [trim_dropWhile, trim_rdropWhile]
  congr 1
  by_cases hmode : String.ofList (trim key) = "mode"
  · rw [if_pos hmode, if_pos hmode]
    cases modeNamed (asciiUpper (String.ofList (trim value))) <;> rfl
  · rw [if_neg hmode, if_neg hmode]
    rfl

namespace OptionText

variable {option : List Char} {said : Option ParameterMode}

theorem plain (h : OptionText option said) : Plain option := by
  cases h with
  | @mode key value word said hkey hvalue hword =>
    have hnot : ∀ c : Char, c.toUpper ∉ (modeWord said).toList → c ∉ word := fun c hc hmem =>
      hc (hword ▸ List.mem_map_of_mem hmem)
    have hcomma : ',' ∉ key ∧ ',' ∉ value := by
      refine ⟨hkey.notMem (by decide) (by decide), hvalue.notMem (by decide) (hnot ',' ?_)⟩
      cases said <;> decide
    have hbrace : '}' ∉ key ∧ '}' ∉ value := by
      refine ⟨hkey.notMem (by decide) (by decide), hvalue.notMem (by decide) (hnot '}' ?_)⟩
      cases said <;> decide
    constructor
    · simp [hcomma]
    · simp [hbrace]
  | @hint key value name hname hkey hvalue =>
    have hcomma : ',' ∉ name.toList := by obtain rfl | rfl := hname <;> decide
    have hbrace : '}' ∉ name.toList := by obtain rfl | rfl := hname <;> decide
    constructor
    · simp [hkey.notMem (by decide) hcomma, hvalue.1]
    · simp [hkey.notMem (by decide) hbrace, hvalue.2]

theorem read (h : OptionText option said) :
    readOption template mode (trim option) = .ok (said.getD mode) := by
  cases h with
  | @mode key value word said hkey hvalue hword =>
    have hnamed : modeNamed (asciiUpper (String.ofList word)) = some said := by
      rw [modeNamed_eq_some_iff, asciiUpper, String.toList_ofList, hword, String.ofList_toList]
    rw [readOption_trim (hkey.notMem (by decide) (by decide)), trim_eq_iff.2 hkey,
      trim_eq_iff.2 hvalue, if_neg (by decide), if_pos (by rfl), hnamed]
    rfl
  | @hint key value name hname hkey hvalue =>
    have hequals : '=' ∉ key := by
      obtain rfl | rfl := hname <;> exact hkey.notMem (by decide) (by decide)
    rw [readOption_trim hequals, trim_eq_iff.2 hkey, String.ofList_toList, if_pos hname]
    rfl

theorem readAll {options : List (List Char)} {said : List (Option ParameterMode)}
    (h : List.Forall₂ OptionText options said) (mode : ParameterMode) :
    (options.map trim).foldlM (readOption template) mode =
      .ok ((said.filterMap id).getLast?.getD mode) := by
  induction h generalizing mode with
  | nil => rfl
  | @cons option first options said hoption _ ih =>
    rw [List.map_cons, List.foldlM_cons, hoption.read]
    refine (ih _).trans ?_
    cases first with
    | none => rfl
    | some mode => simp [List.getLast?_cons]

end OptionText

theorem BadOption.read {option : List Char} {fault : ConfigFault} (hplain : Plain option)
    (h : BadOption template option fault) :
    readOption template mode (trim option) = .error fault := by
  cases h with
  | @malformed shown hequals hshown =>
    have hnone : '=' ∉ shown := fun hmem => hequals (hshown.subset hmem)
    rw [trim_eq_iff.2 hshown]
    unfold readOption
    rw [splitOnce_of_notMem hnone]
  | @unknown shown hequals hnone hshown =>
    obtain ⟨key, value, rfl, hkey⟩ := List.eq_append_cons_of_mem hequals
    have htrimmed : ∀ name, String.ofList (trim key) = name → Trimmed name.toList key := by
      rintro name rfl
      rw [String.toList_ofList]
      exact trimmed_trim key
    have hvalue : Plain value := by
      constructor
      · exact fun hmem => hplain.1 (by simp [hmem])
      · exact fun hmem => hplain.2 (by simp [hmem])
    rw [readOption_trim hkey, trim_eq_iff.2 hshown]
    split
    · next hname =>
      exact absurd (.hint hname (htrimmed _ rfl) hvalue) (hnone none)
    · dsimp only
      split
      · next hmode =>
        cases hsaid : modeNamed (asciiUpper (String.ofList (trim value))) with
        | none => rfl
        | some said =>
          rw [modeNamed_eq_some_iff, asciiUpper, String.toList_ofList] at hsaid
          refine absurd (.mode (htrimmed _ hmode) (trimmed_trim value) ?_) (hnone (some said))
          rw [← hsaid, String.toList_ofList]
      · rfl

namespace Slot

variable {s : Slot} {p : Placeholder} {fault : ConfigFault}

theorem StandsFor.separate (h : s.StandsFor p) : s.Separate := by
  obtain ⟨said, hsaid, -⟩ := h.mode
  refine List.forall_mem_cons.2 ⟨h.plain, fun o ho => ?_⟩
  obtain ⟨i, hi, rfl⟩ := List.getElem_of_mem ho
  exact ((List.forall₂_iff_get.1 hsaid).2 i hi ((List.forall₂_iff_get.1 hsaid).1 ▸ hi)).plain

theorem Separate.split (h : s.Separate) : split ',' s.content = s.property :: s.options :=
  split_intercalate nofun fun part hpart => (h part hpart).1

theorem Separate.notMem (h : s.Separate) : '}' ∉ s.content :=
  notMem_intercalate (by decide) fun part hpart => (h part hpart).2

theorem Separate.read_of_blank (hs : s.Separate) (h : ∀ c ∈ s.property, isBlank c = true) :
    readPlaceholder template s.content = .error (.emptyProperty template) := by
  unfold readPlaceholder
  rw [hs.split, List.map_cons, trim_eq_nil_iff.2 h]

theorem Separate.read (hs : s.Separate) (h : ¬ ∀ c ∈ s.property, isBlank c = true) :
    readPlaceholder template s.content =
      ((s.options.map trim).foldlM (readOption template) .input).map fun mode =>
        ⟨String.ofList (trim s.property), mode⟩ := by
  unfold readPlaceholder
  rw [hs.split, List.map_cons]
  cases hproperty : trim s.property with
  | nil => exact absurd (trim_eq_nil_iff.1 hproperty) h
  | cons c cs =>
    dsimp only
    cases (s.options.map trim).foldlM (readOption template) .input <;> rfl

theorem StandsFor.read (h : s.StandsFor p) : readPlaceholder template s.content = .ok p := by
  obtain ⟨said, hsaid, hmode⟩ := h.mode
  have hproperty := trim_eq_iff.2 h.property
  rw [h.separate.read, OptionText.readAll hsaid, ← hmode, hproperty, String.ofList_toList]
  · rfl
  · rw [← trim_eq_nil_iff, hproperty, String.toList_eq_nil_iff]
    exact h.named

theorem Separate.read_of_bad {good later : List (List Char)} {bad : List Char}
    {said : List (Option ParameterMode)} (hs : s.Separate)
    (hproperty : ¬ ∀ c ∈ s.property, isBlank c = true)
    (hoptions : s.options = good ++ bad :: later) (hgood : List.Forall₂ OptionText good said)
    (hbad : BadOption template bad fault) :
    readPlaceholder template s.content = .error fault := by
  have hplain : Plain bad := hs bad (by simp [hoptions])
  have hstop : ∀ mode, ((bad :: later).map trim).foldlM (readOption template) mode =
      .error fault := by
    intro mode
    rw [List.map_cons, List.foldlM_cons, hbad.read hplain]
    rfl
  rw [hs.read hproperty, hoptions, List.map_append, List.foldlM_append, OptionText.readAll hgood]
  exact congrArg (Except.map _) (hstop _)

end Slot

theorem pieces_cons {c : Char} {cs : List Char} (h : c = '#' → cs.head? ≠ some '{') :
    pieces (c :: cs) none = .literal c :: pieces cs none := by
  rw [pieces]
  rintro rest rfl rfl
  exact h rfl rfl

theorem literal_cons_iff {c : Char} {lit : List Char} :
    Literal (c :: lit) ↔ ¬ (c = '#' ∧ lit.head? = some '{') ∧ Literal lit := by
  have hstart : ['#', '{'] <+: c :: lit ↔ c = '#' ∧ lit.head? = some '{' := by
    cases lit <;> simp [List.cons_prefix_cons, @eq_comm _ c, @eq_comm _ '{']
  rw [Literal, List.infix_cons_iff, not_or, ← Literal, hstart]

/-- What comes after a literal must not make a slot of a sharp sign at its end. -/
theorem pieces_literal {lit rest : List Char} (hlit : Literal lit) (hrest : rest.head? ≠ some '{') :
    pieces (lit ++ rest) none = lit.map .literal ++ pieces rest none := by
  induction lit with
  | nil => rfl
  | cons c lit ih =>
    obtain ⟨hc, hlit⟩ := literal_cons_iff.1 hlit
    rw [List.cons_append, pieces_cons, ih hlit, List.map_cons, List.cons_append]
    rintro rfl hhead
    cases lit with
    | nil => exact hrest hhead
    | cons d lit => exact hc ⟨rfl, hhead⟩

theorem pieces_content {content : List Char} (h : '}' ∉ content) (read rest : List Char) :
    pieces (content ++ '}' :: rest) (some read) =
      .placeholder (read ++ content) :: pieces rest none := by
  induction content generalizing read with
  | nil => simp [pieces]
  | cons c content ih =>
    rw [List.mem_cons, not_or] at h
    rw [List.cons_append, pieces, if_neg (Ne.symm h.1), ih h.2, List.append_assoc]
    rfl

theorem pieces_unterminated {rest : List Char} (h : '}' ∉ rest) (read : List Char) :
    pieces rest (some read) = [.unterminated] := by
  induction rest generalizing read with
  | nil => rfl
  | cons c rest ih =>
    rw [List.mem_cons, not_or] at h
    rw [pieces, if_neg (Ne.symm h.1), ih h.2]

theorem assemble_literals (lit : List Char) (ps : List Piece) :
    assemble template (lit.map .literal ++ ps) =
      (assemble template ps).map fun r => (lit ++ r.1, r.2) := by
  induction lit with
  | nil =>
    rw [List.map_nil, List.nil_append]
    cases assemble template ps <;> rfl
  | cons c lit ih =>
    rw [List.map_cons, List.cons_append, assemble, ih]
    cases assemble template ps <;> rfl

theorem pieces_slot {s : Slot} (hs : s.Separate) (rest : List Char) :
    pieces (s.text ++ rest) none = .placeholder s.content :: pieces rest none := by
  have htext : s.text ++ rest = '#' :: '{' :: (s.content ++ '}' :: rest) := by
    simp [Slot.text]
  rw [htext, pieces, pieces_content hs.notMem]
  rfl

/-- A template that is made of literals and slots gives its text and its placeholders, and what
comes after it gives the rest. -/
theorem assemble_written {text sql rest : List Char} {placeholders : List Placeholder}
    (h : Written text sql placeholders) (hrest : rest.head? ≠ some '{') :
    assemble template (pieces (text ++ rest) none) =
      (assemble template (pieces rest none)).map fun r => (sql ++ r.1, placeholders ++ r.2) := by
  induction h with
  | literal hlit =>
    rw [pieces_literal hlit hrest, assemble_literals]
    rfl
  | @slot lit text sql s p placeholders hlit hs _ ih =>
    -- the slot stands between this literal and a template, which is read as the hypothesis says
    rw [List.append_assoc, List.append_assoc, pieces_literal hlit (by simp [Slot.text]),
      assemble_literals, pieces_slot hs.separate, assemble, hs.read]
    change Except.map _ (assemble template (pieces (text ++ rest) none) >>= _) = _
    rw [ih]
    cases assemble template (pieces rest none) with
    | error fault => rfl
    | ok r =>
      change Except.ok (lit ++ '?' :: (sql ++ r.1), _) = .ok (lit ++ '?' :: sql ++ r.1, _)
      rw [List.append_assoc]
      rfl

theorem assemble_offends {bad : List Char} {fault : ConfigFault} (h : Offends template bad fault) :
    assemble template (pieces bad none) = .error fault := by
  cases h with
  | unterminated h =>
    rw [pieces, pieces_unterminated h]
    rfl
  | property hs h =>
    rw [pieces_slot hs, assemble, hs.read_of_blank h]
    rfl
  | option hs hproperty hoptions hgood hbad =>
    rw [pieces_slot hs, assemble, hs.read_of_bad hproperty hoptions hgood hbad]
    rfl

theorem literal_or_first_slot (text : List Char) :
    Literal text ∨ ∃ lit rest, text = lit ++ '#' :: '{' :: rest ∧ Literal lit := by
  induction text with
  | nil => exact .inl (by simp [Literal])
  | cons c text ih =>
    by_cases hc : c = '#' ∧ text.head? = some '{'
    · obtain ⟨rfl, hhead⟩ := hc
      obtain ⟨rest, rfl⟩ := List.head?_eq_some_iff.1 hhead
      exact .inr ⟨[], rest, rfl, by simp [Literal]⟩
    · obtain hlit | ⟨lit, rest, rfl, hlit⟩ := ih
      · exact .inl (literal_cons_iff.2 ⟨hc, hlit⟩)
      · refine .inr ⟨c :: lit, rest, rfl, literal_cons_iff.2 ⟨fun ⟨hsharp, hhead⟩ => ?_, hlit⟩⟩
        exact hc ⟨hsharp, by rw [List.head?_append, hhead, Option.some_or]⟩

theorem exists_slot {content : List Char} (h : '}' ∉ content) :
    ∃ s : Slot, s.Separate ∧ s.content = content := by
  rcases hsplit : split ',' content with _ | ⟨property, options⟩
  · exact absurd hsplit (split_ne_nil ',' content)
  · refine ⟨⟨property, options⟩, fun part hpart => ?_, ?_⟩
    · rw [← hsplit] at hpart
      obtain ⟨hcomma, hsub⟩ := of_mem_split hpart
      exact ⟨hcomma, fun hmem => h (hsub hmem)⟩
    · rw [Slot.content, ← hsplit, intercalate_split]

theorem options_or_first_bad (template : String) (options : List (List Char)) :
    (∃ said, List.Forall₂ OptionText options said) ∨
      ∃ good bad later said fault, options = good ++ bad :: later ∧
        List.Forall₂ OptionText good said ∧ BadOption template bad fault := by
  induction options with
  | nil => exact .inl ⟨[], .nil⟩
  | cons option options ih =>
    by_cases h : ∃ said, OptionText option said
    · obtain ⟨first, hfirst⟩ := h
      obtain ⟨said, hsaid⟩ | ⟨good, bad, later, said, fault, rfl, hgood, hbad⟩ := ih
      · exact .inl ⟨first :: said, .cons hfirst hsaid⟩
      · exact .inr ⟨option :: good, bad, later, first :: said, fault, rfl, .cons hfirst hgood, hbad⟩
    · have hshown := trimmed_trim option
      by_cases hequals : '=' ∈ option
      · exact .inr ⟨[], option, options, [], _, rfl, .nil, .unknown hequals (not_exists.1 h) hshown⟩
      · exact .inr ⟨[], option, options, [], _, rfl, .nil, .malformed hequals hshown⟩

theorem stands_or_offends (template : String) {s : Slot} (hs : s.Separate) (rest : List Char) :
    (∃ p, s.StandsFor p) ∨ ∃ fault, Offends template (s.text ++ rest) fault := by
  by_cases hproperty : ∀ c ∈ s.property, isBlank c = true
  · exact .inr ⟨_, .property hs hproperty⟩
  · obtain ⟨said, hsaid⟩ | ⟨good, bad, later, said, fault, hoptions, hgood, hbad⟩ :=
      options_or_first_bad template s.options
    · have hnamed : String.ofList (trim s.property) ≠ "" := by
        rw [Ne, String.ofList_eq_empty_iff, trim_eq_nil_iff]
        exact hproperty
      have htrimmed : Trimmed (String.ofList (trim s.property)).toList s.property := by
        rw [String.toList_ofList]
        exact trimmed_trim s.property
      exact .inl ⟨⟨_, _⟩, htrimmed, hnamed, hs _ List.mem_cons_self, said, hsaid, rfl⟩
    · exact .inr ⟨fault, .option hs hproperty hoptions hgood hbad⟩

/-- Every text is a template, or is one up to a slot that offends. -/
theorem written_or_offends (template : String) (text : List Char) :
    (∃ sql placeholders, Written text sql placeholders) ∨
      ∃ before bad sql placeholders fault, text = before ++ bad ∧ Written before sql placeholders ∧
        Offends template bad fault := by
  -- on the length: what comes after the first slot is shorter
  induction hn : text.length using Nat.strongRecOn generalizing text with
  | ind n ih =>
    obtain hlit | ⟨lit, rest, rfl, hlit⟩ := literal_or_first_slot text
    · exact .inl ⟨text, [], .literal hlit⟩
    · by_cases hclosed : '}' ∈ rest
      · obtain ⟨content, rest, rfl, hcontent⟩ := List.eq_append_cons_of_mem hclosed
        obtain ⟨s, hs, rfl⟩ := exists_slot hcontent
        have htext : lit ++ '#' :: '{' :: (s.content ++ '}' :: rest) = lit ++ s.text ++ rest := by
          simp [Slot.text]
        have hlength : rest.length < n := by
          rw [← hn]
          simp
          omega
        rw [htext]
        obtain ⟨p, hp⟩ | ⟨fault, hbad⟩ := stands_or_offends template hs rest
        · obtain ⟨sql, placeholders, h⟩ | ⟨before, bad, sql, placeholders, fault, rfl, h, hbad⟩ :=
            ih _ hlength rest rfl
          · exact .inl ⟨_, _, .slot hlit hp h⟩
          · exact .inr ⟨lit ++ s.text ++ before, bad, _, _, fault, by simp, .slot hlit hp h, hbad⟩
        · exact .inr ⟨lit, s.text ++ rest, lit, [], fault, by simp, .literal hlit, hbad⟩
      · exact .inr ⟨lit, _, lit, [], _, rfl, .literal hlit, .unterminated hclosed⟩

theorem Offends.head? {bad : List Char} {fault : ConfigFault} (h : Offends template bad fault) :
    bad.head? = some '#' := by
  cases h <;> rfl

theorem compile_of_written {sql : List Char} {placeholders : List Placeholder}
    (h : Written template.toList sql placeholders) :
    compile template = .ok ⟨String.ofList (trim sql), placeholders⟩ := by
  have hall : assemble template (pieces template.toList none) = .ok (sql, placeholders) := by
    have hnil := List.append_nil template.toList
    rw [← hnil, assemble_written h (by simp), pieces, assemble]
    simp [Except.map]
  unfold compile
  rw [hall]
  rfl

theorem compile_of_offends {before bad sql : List Char} {placeholders : List Placeholder}
    {fault : ConfigFault} (htemplate : template.toList = before ++ bad)
    (hbefore : Written before sql placeholders) (hbad : Offends template bad fault) :
    compile template = .error fault := by
  have hhead : bad.head? ≠ some '{' := by simp [hbad.head?]
  unfold compile
  rw [htemplate, assemble_written hbefore hhead, assemble_offends hbad]
  rfl

/-- Templates are compiled to their trimmed text and their placeholders. Any other text is refused
for the first slot that offends. -/
theorem compile_iff (template : String) :
    (∀ bound, compile template = .ok bound ↔
      ∃ sql, Written template.toList sql bound.placeholders ∧ Trimmed bound.sql.toList sql) ∧
    ∀ fault, compile template = .error fault ↔ ∃ before bad sql placeholders,
      template.toList = before ++ bad ∧ Written before sql placeholders ∧
        Offends template bad fault := by
  have hcases := written_or_offends template template.toList
  refine ⟨fun bound => ⟨fun h => ?_, ?_⟩, fun fault => ⟨fun h => ?_, ?_⟩⟩
  · obtain ⟨sql, placeholders, hwritten⟩ | ⟨before, bad, _, _, _, hall, hbefore, hbad⟩ := hcases
    · cases (compile_of_written hwritten).symm.trans h
      refine ⟨sql, hwritten, ?_⟩
      rw [String.toList_ofList]
      exact trimmed_trim sql
    · cases (compile_of_offends hall hbefore hbad).symm.trans h
  · rintro ⟨sql, hwritten, hsql⟩
    rw [compile_of_written hwritten, trim_eq_iff.2 hsql, String.ofList_toList]
  · obtain ⟨_, _, hwritten⟩ | ⟨before, bad, sql, placeholders, _, hall, hbefore, hbad⟩ := hcases
    · cases (compile_of_written hwritten).symm.trans h
    · cases (compile_of_offends hall hbefore hbad).symm.trans h
      exact ⟨before, bad, sql, placeholders, hall, hbefore, hbad⟩
  · rintro ⟨before, bad, sql, placeholders, hall, hbefore, hbad⟩
    exact compile_of_offends hall hbefore hbad

/-- A sharp sign before a placeholder belongs to the text, and so does a question mark. -/
example : compile " a = ? ##\x7b total , mode = inout\x7d " =
    .ok ⟨"a = ? #?", [⟨"total", .inOut⟩]⟩ := by decide +kernel

/-- A comma that nothing follows asks for an option. -/
example : compile "#\x7ba,\x7d #\x7b" = .error (.malformedOption "" "#\x7ba,\x7d #\x7b") := by
  decide +kernel

end SqlMapper.Template
