import Bytecode.Json.Value
import Mathlib.Data.Nat.Digits.Defs
import Mathlib.Data.List.Basic

/-!
# A grammar of JSON texts

`Denotes` relates a text to the value that it stands for, as the grammar of JSON has it
and whoever reads it: blanks may stand around every token, the parts of an array or an
object have commas between them, and a number is spelled by its decimal digits. It covers
the texts that records of numbers come as, which are natural numbers, arrays and objects
that are not empty, and keys that need no escapes.

Of the natural numbers every one has a numeral (`numeral_toDigits`).
-/

namespace Bytecode.Json

/-! ## Numbers -/

/-- The decimal digits of a number, the highest one first, with no needless zero in
front. -/
structure Numeral (digits : List Char) (number : Nat) : Prop where
  nonempty : digits ≠ []
  plain : ∀ char ∈ digits, char.isDigit = true
  lead : digits.head? = some '0' → digits = ['0']
  value_eq : Nat.ofDigitChars 10 digits 0 = number

/-- A value that is a natural number. -/
def IsNatural (item : Json) (number : Nat) : Prop :=
  ∃ digits, item = .number digits ∧ Numeral digits number

/-- Of the digits of a number that is not zero, the first is not zero. -/
theorem head?_toDigits_ne_zero {number : Nat} (positive : 0 < number) :
    (Nat.toDigits 10 number).head? ≠ some '0' := by
  induction number using Nat.strong_induction_on with
  | _ number ih =>
      by_cases single : number < 10
      · rw [Nat.toDigits_of_lt_base single, List.head?_cons, ne_eq, Option.some.injEq,
          Nat.digitChar_eq_zero]
        exact Nat.ne_of_gt positive
      · have more : 10 ≤ number := Nat.not_lt.mp single
        have lead := ih (number / 10) (by omega) (by omega)
        rw [Nat.toDigits_of_base_le (by decide) more, List.head?_append_of_ne_nil _
          Nat.toDigits_ne_nil]
        exact lead

/-- The digits of a number are its numeral. -/
theorem numeral_toDigits (number : Nat) : Numeral (Nat.toDigits 10 number) number where
  nonempty := Nat.toDigits_ne_nil
  plain := fun _ => Nat.isDigit_of_mem_toDigits (by decide) (by decide)
  lead := by
    intro zero
    rcases Nat.eq_zero_or_pos number with rfl | positive
    · rfl
    · exact absurd zero (head?_toDigits_ne_zero positive)
  value_eq := Nat.ofDigitChars_ten_toDigits

/-- A number as the value that it is written as. -/
def ofNatural (number : Nat) : Json :=
  .number (Nat.toDigits 10 number)

theorem isNatural_ofNatural (number : Nat) : IsNatural (ofNatural number) number :=
  ⟨_, rfl, numeral_toDigits number⟩

theorem forall₂_isNatural_ofNatural (numbers : List Nat) :
    List.Forall₂ IsNatural (numbers.map ofNatural) numbers := by
  induction numbers with
  | nil => exact .nil
  | cons number rest ih => exact .cons (isNatural_ofNatural number) ih

/-! ## Texts -/

/-- Characters that stand for themselves in a string. -/
def Plain (name : List Char) : Prop :=
  ∀ char ∈ name, ¬ char < ' ' ∧ char ≠ '"' ∧ char ≠ '\\'

/-- The text stands for this key. -/
inductive DenotesKey : List Char → List Char → Prop
  | quoted {name} : Plain name → DenotesKey ('"' :: (name ++ ['"'])) name
  | before {blank text name} :
      isBlank blank = true → DenotesKey text name → DenotesKey (blank :: text) name
  | behind {blank text name} :
      isBlank blank = true → DenotesKey text name → DenotesKey (text ++ [blank]) name

mutual

/-- The text stands for this value. -/
inductive Denotes : List Char → Json → Prop
  | number {digits number} : Numeral digits number → Denotes digits (.number digits)
  | array {text items} : DenotesItems text items → Denotes ('[' :: (text ++ [']'])) (.array items)
  | object {text members} :
      DenotesMembers text members → Denotes ('\x7b' :: (text ++ ['\x7d'])) (.object members)
  | before {blank text item} :
      isBlank blank = true → Denotes text item → Denotes (blank :: text) item
  | behind {blank text item} :
      isBlank blank = true → Denotes text item → Denotes (text ++ [blank]) item

/-- The text stands for these items of an array. -/
inductive DenotesItems : List Char → List Json → Prop
  | last {text item} : Denotes text item → DenotesItems text [item]
  | cons {text item rest items} :
      Denotes text item → DenotesItems rest items →
        DenotesItems (text ++ ',' :: rest) (item :: items)

/-- The text stands for these members of an object. -/
inductive DenotesMembers : List Char → List (Option (List Char) × Json) → Prop
  | last {key name text item} :
      DenotesKey key name → Denotes text item →
        DenotesMembers (key ++ ':' :: text) [(some name, item)]
  | cons {key name text item rest members} :
      DenotesKey key name → Denotes text item → DenotesMembers rest members →
        DenotesMembers (key ++ ':' :: text ++ ',' :: rest) ((some name, item) :: members)

end

/-- Every key of an object spells a text. -/
theorem DenotesMembers.isSome_key {text : List Char}
    {members : List (Option (List Char) × Json)} :
    DenotesMembers text members → ∀ member ∈ members, member.1.isSome = true
  | .last _ _ => by simp
  | .cons _ _ others => by simpa using others.isSome_key

theorem Denotes.isSome_key {text : List Char} {item : Json} :
    Denotes text item → ∀ members, item = .object members →
      ∀ member ∈ members, member.1.isSome = true
  | .object denotes, _, rfl => denotes.isSome_key
  | .before _ denotes, members, same => denotes.isSome_key members same
  | .behind _ denotes, members, same => denotes.isSome_key members same

theorem denotes_ofNatural (number : Nat) :
    Denotes (Nat.toDigits 10 number) (ofNatural number) :=
  .number (numeral_toDigits number)

/-- Numbers with commas between them stand for these numbers. -/
theorem denotesItems_ofNatural {numbers : List Nat} (nonempty : numbers ≠ []) :
    DenotesItems ([','].intercalate (numbers.map (Nat.toDigits 10)))
      (numbers.map ofNatural) := by
  induction numbers with
  | nil => exact absurd rfl nonempty
  | cons number rest ih =>
      cases rest with
      | nil =>
          rw [List.map_singleton, List.map_singleton, List.intercalate_singleton]
          exact .last (denotes_ofNatural number)
      | cons next rest =>
          rw [List.map_cons, List.map_cons, List.intercalate_cons_cons, ← List.map_cons,
            List.append_assoc, List.singleton_append]
          exact .cons (denotes_ofNatural number) (ih (List.cons_ne_nil _ _))

end Bytecode.Json
