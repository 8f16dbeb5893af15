import Bytecode.Proofs.Json.Grammar

/-!
# Reading JSON texts

A text that stands for a value by the grammar is read as this value
(`parse_of_denotes`), by induction on how the grammar makes it up.

Both halves of reading take part in it. `Spells` says that a text is cut into a row of
tokens whatever stands around it, as long as what follows ends a number (`EndsNumber`);
`Yields` says that the row, where a value is asked for, makes up this one. Arrays and objects
differ only in their brackets and in what counts as a part, so they are two `Enclosure`s, and
what is put together of parts is settled once (`Enclosure.HoldsParts`).

Out of such a value come the number that a numeral spells (`natural?_of_isNatural`), and
the member under each key when no key comes twice (`underKey_eq_singleton`).
-/

namespace Bytecode.Json

/-! ## Numbers -/

/-- Behind these characters a number has ended. -/
def EndsNumber (rest : List Char) : Prop :=
  ∀ char ∈ rest.head?, char.isDigit = false ∧ char ≠ '.' ∧ char ≠ 'e' ∧ char ≠ 'E'

theorem scanDigits_append {digits rest : List Char} (plain : ∀ char ∈ digits, char.isDigit = true)
    (ends : EndsNumber rest) : scanDigits (digits ++ rest) = (digits, rest) := by
  have stopped : rest.takeWhile Char.isDigit = [] ∧ rest.dropWhile Char.isDigit = rest := by
    cases rest with
    | nil => exact ⟨rfl, rfl⟩
    | cons char rest => simp [(ends char rfl).1]
  rw [scanDigits, List.takeWhile_append_of_pos plain, List.dropWhile_append_of_pos plain,
    stopped.1, stopped.2, List.append_nil]

section Numeral

variable {digits rest : List Char} {number : Nat}

/-- A numeral is a zero, or starts with another digit. -/
theorem Numeral.cases (numeral : Numeral digits number) :
    digits = ['0'] ∨ ∃ lead more, digits = lead :: more ∧ lead ≠ '0' ∧
      lead.isDigit = true ∧ ∀ char ∈ more, char.isDigit = true := by
  obtain ⟨lead, more, rfl⟩ := List.exists_cons_of_ne_nil numeral.nonempty
  obtain ⟨leadDigit, othersDigit⟩ := List.forall_mem_cons.mp numeral.plain
  by_cases zero : lead = '0'
  · exact .inl (numeral.lead (by rw [List.head?_cons, zero]))
  · exact .inr ⟨lead, more, rfl, zero, leadDigit, othersDigit⟩

/-- A numeral starts with a digit, and so with no sign, no bracket and no blank. -/
theorem Numeral.exists_eq_cons (numeral : Numeral digits number) :
    ∃ lead more, digits = lead :: more ∧ lead.isDigit = true := by
  obtain ⟨lead, more, rfl⟩ := List.exists_cons_of_ne_nil numeral.nonempty
  exact ⟨lead, more, rfl, numeral.plain lead List.mem_cons_self⟩

theorem scanWhole_of_numeral (numeral : Numeral digits number) (ends : EndsNumber rest) :
    scanWhole (digits ++ rest) = some (digits, rest) := by
  rcases numeral.cases with rfl | ⟨lead, more, rfl, nonzero, leadDigit, othersDigit⟩
  · rfl
  · rw [List.cons_append, scanWhole, if_neg nonzero, if_pos leadDigit,
      scanDigits_append othersDigit ends]

theorem scanFraction_of_ends (ends : EndsNumber rest) :
    scanFraction rest = some ([], rest) := by
  cases rest with
  | nil => rfl
  | cons char rest =>
      have other := (ends char rfl).2.1
      rw [scanFraction]
      simpa using other

theorem scanExponent_of_ends (ends : EndsNumber rest) :
    scanExponent rest = some ([], rest) := by
  cases rest with
  | nil => rfl
  | cons char rest =>
      have other := (ends char rfl).2.2
      rw [scanExponent, if_neg (by simpa using other)]

theorem scanNumber_of_numeral (numeral : Numeral digits number) (ends : EndsNumber rest) :
    scanNumber (digits ++ rest) = some (digits, rest) := by
  have unsigned : scanSign ['-'] (digits ++ rest) = ([], digits ++ rest) := by
    obtain ⟨lead, more, rfl, leadDigit⟩ := numeral.exists_eq_cons
    have other : lead ∉ ['-'] := by
      rintro inside
      obtain rfl := List.mem_singleton.mp inside
      exact absurd leadDigit (by decide)
    rw [List.cons_append, scanSign, if_neg other]
  simp [scanNumber, unsigned, scanWhole_of_numeral numeral ends, scanFraction_of_ends ends,
    scanExponent_of_ends ends]

theorem Token.scan_of_numeral (numeral : Numeral digits number) (ends : EndsNumber rest) :
    Token.scan (digits ++ rest) = some (.number digits, rest) := by
  have scanned := scanNumber_of_numeral numeral ends
  obtain ⟨lead, more, rfl, leadDigit⟩ := numeral.exists_eq_cons
  rw [List.cons_append] at scanned ⊢
  unfold scan
  split
  case h_11 => rw [scanned]; rfl
  all_goals
    next same =>
      simp only [List.cons.injEq] at same
      obtain ⟨rfl, -⟩ := same
      exact absurd leadDigit (by decide)

theorem natural?_of_isNatural {item : Json} (natural : IsNatural item number) :
    item.natural? = some number := by
  obtain ⟨digits, rfl, numeral⟩ := natural
  rw [natural?, if_pos (List.all_eq_true.mpr numeral.plain), numeral.value_eq]

end Numeral

theorem isBlank_iff {char : Char} :
    isBlank char = true ↔ char = ' ' ∨ char = '\t' ∨ char = '\n' ∨ char = '\r' := by
  simp [isBlank, or_assoc]

theorem isBlank_of_isDigit {char : Char} (digit : char.isDigit = true) :
    isBlank char = false := by
  by_contra blank
  rw [Bool.not_eq_false, isBlank_iff] at blank
  rcases blank with rfl | rfl | rfl | rfl <;> exact absurd digit (by decide)

theorem endsNumber_of_isBlank {char : Char} (blank : isBlank char = true) (rest : List Char) :
    EndsNumber (char :: rest) := by
  rcases isBlank_iff.mp blank with rfl | rfl | rfl | rfl <;> simp [EndsNumber]

/-! ## Strings -/

theorem scanString_plain {name rest : List Char} (done : List StringUnit)
    (plain : Plain name) :
    scanString done (name ++ '"' :: rest) = some (done.reverse ++ name.map .char, rest) := by
  induction name generalizing done with
  | nil => simp [scanString]
  | cons char name ih =>
      obtain ⟨⟨printed, noQuote, noEscape⟩, others⟩ := List.forall_mem_cons.mp plain
      rw [List.cons_append, scanString]
      · rw [if_neg (by simp [printed, noEscape]), ih _ others]
        simp
      · exact noQuote
      · intro a b c d after escape
        exact absurd escape noEscape
      · intro letter after escape
        exact absurd escape noEscape

theorem spell_chars (done name : List Char) :
    spell done (name.map .char) = some (done.reverse ++ name) := by
  induction name generalizing done with
  | nil => simp [spell]
  | cons char name ih => simp [spell, ih]

theorem Token.scan_plain {name rest : List Char} (plain : Plain name) :
    Token.scan ('"' :: (name ++ '"' :: rest)) = some (.string (some name), rest) := by
  rw [scan, scanString_plain [] plain, Option.map_some]
  simp [spell_chars]

/-! ## Rows of tokens -/

/-- Cutting a text into tokens, one step of it. -/
theorem tokens_eq (done : List Token) (chars : List Char) :
    tokens done chars =
      if chars.all isBlank then some done.reverse
      else (Token.next chars).bind fun (token, rest) => tokens (token :: done) rest := by
  rw [tokens]
  split
  · rfl
  · split
    · next stopped => simp only [stopped, Option.bind_none]
    · next token rest found => simp only [found, Option.bind_some]

/-- A token at the front of a text is the next one of the row. -/
theorem tokens_of_scan {char : Char} {chars rest : List Char} {token : Token}
    (done : List Token) (ink : isBlank char = false)
    (found : Token.scan (char :: chars) = some (token, rest)) :
    tokens done (char :: chars) = tokens (token :: done) rest := by
  have next : Token.next (char :: chars) = some (token, rest) := by
    rw [Token.next, List.dropWhile_cons_of_neg (by simp [ink]), found]
  rw [tokens_eq, if_neg (by simp [ink]), next, Option.bind_some]

/-- A blank in front of a text is passed over. -/
theorem tokens_of_isBlank {char : Char} (done : List Token) (chars : List Char)
    (blank : isBlank char = true) : tokens done (char :: chars) = tokens done chars := by
  have next : Token.next (char :: chars) = Token.next chars := by
    rw [Token.next, List.dropWhile_cons_of_pos blank, Token.next]
  rw [tokens_eq, tokens_eq done chars, next, List.all_cons, blank, Bool.true_and]

/-- The text is cut into the tokens of the row, whatever stands before and behind it. -/
def Spells (text : List Char) (row : List Token) : Prop :=
  ∀ done rest, EndsNumber rest → tokens done (text ++ rest) = tokens (row.reverse ++ done) rest

theorem EndsNumber.append {text rest : List Char} (first : EndsNumber text)
    (second : EndsNumber rest) : EndsNumber (text ++ rest) := by
  cases text with
  | nil => exact second
  | cons char text => exact first

theorem Spells.append {text more : List Char} {row others : List Token}
    (first : Spells text row) (second : Spells more others) (apart : EndsNumber more) :
    Spells (text ++ more) (row ++ others) := by
  intro done rest ends
  rw [List.append_assoc, first done _ (apart.append ends), second _ rest ends,
    List.reverse_append, List.append_assoc]

/-- The characters that are tokens by themselves. -/
def marks : List (Char × Token) :=
  [('[', .openBracket), (']', .closeBracket), ('\x7b', .openBrace), ('\x7d', .closeBrace),
    (',', .comma), (':', .colon)]

theorem scan_mark {char : Char} {token : Token} (mark : (char, token) ∈ marks)
    (rest : List Char) :
    Token.scan (char :: rest) = some (token, rest) ∧ isBlank char = false ∧
      EndsNumber (char :: rest) := by
  simp only [marks, List.mem_cons, Prod.mk.injEq, List.not_mem_nil, or_false] at mark
  rcases mark with ⟨rfl, rfl⟩ | ⟨rfl, rfl⟩ | ⟨rfl, rfl⟩ | ⟨rfl, rfl⟩ | ⟨rfl, rfl⟩ | ⟨rfl, rfl⟩ <;>
    exact ⟨rfl, by decide, by simp [EndsNumber]⟩

theorem Spells.cons_mark {char : Char} {token : Token} {text : List Char} {row : List Token}
    (mark : (char, token) ∈ marks) (spells : Spells text row) :
    Spells (char :: text) (token :: row) := by
  intro done rest ends
  obtain ⟨scanned, ink, -⟩ := scan_mark mark (text ++ rest)
  rw [List.cons_append, tokens_of_scan done ink scanned, spells _ rest ends,
    List.reverse_cons, List.append_assoc, List.singleton_append]

theorem spells_nil : Spells [] [] := fun _ _ _ => rfl

theorem spells_of_numeral {digits : List Char} {number : Nat} (numeral : Numeral digits number) :
    Spells digits [.number digits] := by
  intro done rest ends
  have scanned := Token.scan_of_numeral numeral ends
  obtain ⟨lead, more, rfl, leadDigit⟩ := numeral.exists_eq_cons
  rw [List.cons_append] at scanned ⊢
  rw [tokens_of_scan done (isBlank_of_isDigit leadDigit) scanned]
  rfl

theorem Spells.before {char : Char} {text : List Char} {row : List Token}
    (spells : Spells text row) (blank : isBlank char = true) : Spells (char :: text) row := by
  intro done rest ends
  rw [List.cons_append, tokens_of_isBlank done _ blank, spells done rest ends]

theorem Spells.behind {char : Char} {text : List Char} {row : List Token}
    (spells : Spells text row) (blank : isBlank char = true) : Spells (text ++ [char]) row := by
  intro done rest ends
  rw [List.append_assoc, List.singleton_append,
    spells done _ (endsNumber_of_isBlank blank rest), tokens_of_isBlank _ rest blank]

theorem DenotesKey.spells {text name : List Char} (denotes : DenotesKey text name) :
    Spells text [.string (some name)] := by
  induction denotes with
  | quoted plain =>
      intro done rest ends
      rw [List.cons_append, List.append_assoc, List.singleton_append,
        tokens_of_scan done (by decide) (Token.scan_plain plain)]
      rfl
  | before blank denotes ih => exact ih.before blank
  | behind blank denotes ih => exact ih.behind blank

/-! ## Values -/

/-- Read from this state on, the tokens of the row lead to the next one. -/
def Leads (row : List Token) (state next : State) : Prop :=
  row.foldlM State.step state = some next

theorem leads_nil (state : State) : Leads [] state state := rfl

theorem Leads.cons {token : Token} {row : List Token} {state middle next : State}
    (step : State.step state token = some middle) (leads : Leads row middle next) :
    Leads (token :: row) state next := by
  rw [Leads, List.foldlM_cons, step]
  exact leads

theorem Leads.append {row others : List Token} {state middle next : State}
    (first : Leads row state middle) (second : Leads others middle next) :
    Leads (row ++ others) state next := by
  rw [Leads, List.foldlM_append, first]
  exact second

/-- Where a value is asked for, the row is taken as this one. -/
def Yields (row : List Token) (item : Json) : Prop :=
  ∀ around, Leads row (.value around) (.after item around)

/-- The text holds this value, and nothing else. -/
def Written (text : List Char) (item : Json) : Prop :=
  ∃ row, Spells text row ∧ Yields row item

theorem parse_of_written {text : String} {item : Json} (written : Written text.toList item) :
    parse text = some item := by
  obtain ⟨row, spells, yields⟩ := written
  have cut : tokens [] text.toList = some row := by
    have whole := spells [] [] (by simp [EndsNumber])
    rw [List.append_nil, List.append_nil] at whole
    rw [whole, tokens, if_pos (by rfl), List.reverse_reverse]
  rw [parse, cut, Option.bind_some, ofTokens?, yields []]
  rfl

theorem Written.before {char : Char} {text : List Char} {item : Json}
    (written : Written text item) (blank : isBlank char = true) :
    Written (char :: text) item := by
  obtain ⟨row, spells, yields⟩ := written
  exact ⟨row, spells.before blank, yields⟩

theorem Written.behind {char : Char} {text : List Char} {item : Json}
    (written : Written text item) (blank : isBlank char = true) :
    Written (text ++ [char]) item := by
  obtain ⟨row, spells, yields⟩ := written
  exact ⟨row, spells.behind blank, yields⟩

/-! ## Arrays and objects -/

/-- A kind of value that is put together of parts, with commas between them and a bracket on
either side. -/
structure Enclosure (β : Type) where
  opening : Char × Token
  closing : Char × Token
  value : List β → Json
  /-- Behind the opening bracket. -/
  first : List Frame → State
  /-- Where one more part is asked for, with the parts before it, last first. -/
  next : List Frame → List β → State
  /-- Behind a part. -/
  behind : List Frame → β → List β → State
  opening_mem : opening ∈ marks
  closing_mem : closing ∈ marks
  step_opening : ∀ around, State.step (.value around) opening.2 = some (first around)
  step_comma : ∀ around part before,
    State.step (behind around part before) .comma = some (next around (part :: before))
  step_closing : ∀ around part before, State.step (behind around part before) closing.2 =
    some (.after (value (before.reverse ++ [part])) around)
  /-- The first part is read as a later one would be. -/
  leads_first : ∀ around row state, Leads row (next around []) (.after state around) →
    Leads row (first around) (.after state around)

namespace Enclosure

variable {β : Type} {enclosure : Enclosure β} {text rest : List Char} {part : β}
  {parts : List β}

/-- The text holds this part, and nothing else. -/
def Holds (enclosure : Enclosure β) (text : List Char) (part : β) : Prop :=
  ∃ row, Spells text row ∧ ∀ around before,
    Leads row (enclosure.next around before) (enclosure.behind around part before)

/-- The text holds these parts, up to the closing bracket. -/
def HoldsParts (enclosure : Enclosure β) (text : List Char) (parts : List β) : Prop :=
  ∃ row, Spells text row ∧ ∀ around before,
    Leads (row ++ [enclosure.closing.2]) (enclosure.next around before)
      (.after (enclosure.value (before.reverse ++ parts)) around)

theorem Holds.last (holds : enclosure.Holds text part) : enclosure.HoldsParts text [part] := by
  obtain ⟨row, spells, reads⟩ := holds
  refine ⟨row, spells, fun around before => ?_⟩
  exact (reads around before).append
    ((leads_nil _).cons (enclosure.step_closing around part before))

theorem HoldsParts.cons (others : enclosure.HoldsParts rest parts)
    (first : enclosure.Holds text part) :
    enclosure.HoldsParts (text ++ ',' :: rest) (part :: parts) := by
  obtain ⟨row, spells, reads⟩ := first
  obtain ⟨behind, spellsBehind, readsBehind⟩ := others
  have comma : (',', Token.comma) ∈ marks := by decide
  refine ⟨row ++ .comma :: behind,
    spells.append (spellsBehind.cons_mark comma) (scan_mark comma rest).2.2, ?_⟩
  intro around before
  have later := readsBehind around (part :: before)
  rw [List.reverse_cons, List.append_assoc, List.singleton_append] at later
  rw [List.append_assoc, List.cons_append]
  exact (reads around before).append (later.cons (enclosure.step_comma around part before))

/-- Between its brackets the text of the parts holds what is put together of them. -/
theorem HoldsParts.written (holds : enclosure.HoldsParts text parts) :
    Written (enclosure.opening.1 :: (text ++ [enclosure.closing.1])) (enclosure.value parts) := by
  obtain ⟨row, spells, reads⟩ := holds
  refine ⟨enclosure.opening.2 :: (row ++ [enclosure.closing.2]), ?_, ?_⟩
  · have closed := spells_nil.cons_mark enclosure.closing_mem
    exact (spells.append closed (scan_mark enclosure.closing_mem []).2.2).cons_mark
      enclosure.opening_mem
  · intro around
    exact (enclosure.leads_first around _ _ (reads around [])).cons
      (enclosure.step_opening around)

end Enclosure

/-- The items of an array. -/
def arrayEnclosure : Enclosure Json where
  opening := ('[', .openBracket)
  closing := (']', .closeBracket)
  value := .array
  first := .firstItem
  next := fun around before => .value (.array before :: around)
  behind := fun around item before => .after item (.array before :: around)
  opening_mem := by decide
  closing_mem := by decide
  step_opening := fun _ => rfl
  step_comma := fun _ _ _ => rfl
  step_closing := by simp [State.step]
  leads_first := by
    intro around row item reads
    cases row with
    | nil => cases reads
    | cons token row =>
        -- only the closing bracket is taken otherwise, and no item starts with it
        have same : State.step (.firstItem around) token =
            State.step (.value (.array [] :: around)) token := by
          cases token with
          | closeBracket => cases reads
          | _ => rfl
        rw [Leads, List.foldlM_cons, same]
        exact reads

/-- The members of an object. -/
def objectEnclosure : Enclosure (Option (List Char) × Json) where
  opening := ('\x7b', .openBrace)
  closing := ('\x7d', .closeBrace)
  value := .object
  first := .firstKey
  next := fun around before => .key before around
  behind := fun around member before => .after member.2 (.member before member.1 :: around)
  opening_mem := by decide
  closing_mem := by decide
  step_opening := fun _ => rfl
  step_comma := fun _ _ _ => rfl
  step_closing := by simp [State.step]
  leads_first := by
    intro around row item reads
    cases row with
    | nil => cases reads
    | cons token row =>
        have same : State.step (.firstKey around) token = State.step (.key [] around) token := by
          cases token with
          | closeBrace => cases reads
          | _ => rfl
        rw [Leads, List.foldlM_cons, same]
        exact reads

theorem Written.holds_item {text : List Char} {item : Json} (written : Written text item) :
    arrayEnclosure.Holds text item := by
  obtain ⟨row, spells, yields⟩ := written
  exact ⟨row, spells, fun around before => yields (.array before :: around)⟩

theorem Written.holds_member {key name text : List Char} {item : Json}
    (written : Written text item) (named : DenotesKey key name) :
    objectEnclosure.Holds (key ++ ':' :: text) (some name, item) := by
  obtain ⟨row, spells, yields⟩ := written
  have colon : (':', Token.colon) ∈ marks := by decide
  refine ⟨[.string (some name)] ++ .colon :: row,
    named.spells.append (spells.cons_mark colon) (scan_mark colon text).2.2, ?_⟩
  intro around before
  exact yields (.member before (some name) :: around)

/-! ## All texts of the grammar -/

mutual

/-- By the grammar: every way in which it makes up a text is one of reading it. -/
theorem Denotes.written {text : List Char} {item : Json} :
    Denotes text item → Written text item
  | .number numeral => ⟨_, spells_of_numeral numeral, fun _ => rfl⟩
  | .array items => items.holds.written
  | .object members => members.holds.written
  | .before blank denotes => denotes.written.before blank
  | .behind blank denotes => denotes.written.behind blank

theorem DenotesItems.holds {text : List Char} {items : List Json} :
    DenotesItems text items → arrayEnclosure.HoldsParts text items
  | .last denotes => denotes.written.holds_item.last
  | .cons denotes others => others.holds.cons denotes.written.holds_item

theorem DenotesMembers.holds {text : List Char} {members : List (Option (List Char) × Json)} :
    DenotesMembers text members → objectEnclosure.HoldsParts text members
  | .last named denotes => (denotes.written.holds_member named).last
  | .cons named denotes others => others.holds.cons (denotes.written.holds_member named)

end

/-- What stands for a value is read as this value. -/
theorem parse_of_denotes {text : String} {item : Json} (denotes : Denotes text.toList item) :
    parse text = some item :=
  parse_of_written denotes.written

/-! ## Members by their keys -/

section Members

variable {members : List (Option (List Char) × Json)} {key : String} {item : Json}

theorem underKey_cons (member : Option (List Char) × Json) :
    underKey (member :: members) key =
      if member.1 = some key.toList then member.2 :: underKey members key
      else underKey members key := by
  by_cases same : member.1 = some key.toList <;> simp [underKey, same]

theorem underKey_eq_nil (missing : some key.toList ∉ members.map Prod.fst) :
    underKey members key = [] := by
  induction members with
  | nil => rfl
  | cons member members ih =>
      rw [List.map_cons, List.mem_cons, not_or] at missing
      rw [underKey_cons, if_neg (Ne.symm missing.1), ih missing.2]

/-- Where no key comes twice, every member is found under its key. -/
theorem underKey_eq_singleton (distinct : (members.map Prod.fst).Nodup)
    (inside : (some key.toList, item) ∈ members) : underKey members key = [item] := by
  induction members with
  | nil => exact absurd inside List.not_mem_nil
  | cons member members ih =>
      obtain ⟨fresh, distinct⟩ := List.nodup_cons.mp distinct
      rcases List.mem_cons.mp inside with rfl | inside
      · rw [underKey_cons, if_pos rfl, underKey_eq_nil fresh]
      · have other : member.1 ≠ some key.toList := by
          intro same
          rw [same] at fresh
          exact fresh (List.mem_map_of_mem inside)
        rw [underKey_cons, if_neg other, ih distinct inside]

theorem onlyUnderKey?_eq_some (found : underKey members key = [item]) :
    onlyUnderKey? members key = some item := by
  rw [onlyUnderKey?, found]

end Members

end Bytecode.Json
