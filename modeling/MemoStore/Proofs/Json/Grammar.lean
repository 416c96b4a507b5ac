import MemoStore.Document.Json
import MemoStore.Proofs.Document.Layout
import MemoStore.Text.Percent

/-!
# The grammar of JSON

When a text is a JSON document, and of which value. Each rule relates a text to the part of the
document that it begins with and to the text behind that part. The rules are those of the
whole language, with blanks wherever they may stand and with every form of an escape, so a
document may say more than a document tree does and in other ways. `isDocument_node` says
that what is written for a tree is a document of its value.
-/

namespace MemoStore.Document.Json

open MemoStore.Text.Percent (hexValue?)

/-- What a document says. A number is kept as it is written. -/
inductive Value where
  | null
  | flag (value : Bool)
  | number (literal : List Char)
  | text (value : String)
  | list (items : List Value)
  | record (fields : List (String × Value))

/-- What holds of a value if it holds of its parts holds of every value. -/
theorem Value.induct {P : Value → Prop} (null : P .null) (flag : ∀ value, P (.flag value))
    (number : ∀ literal, P (.number literal)) (text : ∀ value, P (.text value))
    (list : ∀ items, (∀ item ∈ items, P item) → P (.list items))
    (record : ∀ fields, (∀ field ∈ fields, P field.2) → P (.record fields)) : ∀ value, P value
  | .null => null
  | .flag value => flag value
  | .number literal => number literal
  | .text value => text value
  | .list items => list items fun item _ => Value.induct null flag number text list record item
  | .record fields =>
    record fields fun field _ => Value.induct null flag number text list record field.2
termination_by value => sizeOf value
decreasing_by
  · have smaller := List.sizeOf_lt_of_mem ‹item ∈ items›
    simp only [Value.list.sizeOf_spec]
    omega
  · have smaller := List.sizeOf_lt_of_mem ‹field ∈ fields›
    rcases field with ⟨name, value⟩
    simp only [Prod.mk.sizeOf_spec, Value.record.sizeOf_spec] at smaller ⊢
    omega

/-! ## Blanks -/

/-- Whether a character may stand between the parts of a document. -/
def isBlank (c : Char) : Bool :=
  c == ' ' || c == '\t' || c == '\n' || c == '\r'

/-- Blanks, of which there may be none. -/
inductive Blanks : List Char → List Char → Prop where
  | none {rest : List Char} : Blanks rest rest
  | more {c : Char} {text rest : List Char} :
      isBlank c = true → Blanks text rest → Blanks (c :: text) rest

/-! ## Numbers -/

/-- Whether a text is made of digits, at least one. -/
def isDigits (text : List Char) : Bool :=
  !text.isEmpty && text.all Char.isDigit

/-- Whether a text is a whole number, which begins with a zero only if it is one. -/
def isWhole (text : List Char) : Bool :=
  isDigits text && (text.head? != some '0' || text == ['0'])

/-- Takes a sign off a text. -/
def unsigned (signs : List Char) : List Char → List Char
  | [] => []
  | c :: rest => if signs.contains c then rest else c :: rest

/-- Whether a character does not mark an exponent. -/
def isMantissaChar (c : Char) : Bool :=
  c != 'e' && c != 'E'

/-- Whether a text is a number: a whole number, perhaps with a minus sign, with digits behind a
point and with an exponent. -/
def isNumber (literal : List Char) : Bool :=
  let mantissa := (unsigned ['-'] literal).takeWhile isMantissaChar
  let exponent := (unsigned ['-'] literal).dropWhile isMantissaChar
  let fraction := mantissa.dropWhile (· != '.')
  isWhole (mantissa.takeWhile (· != '.')) &&
    (fraction.isEmpty || isDigits fraction.tail) &&
    (exponent.isEmpty || isDigits (unsigned ['+', '-'] exponent.tail))

/-! ## Texts -/

/-- The characters that a letter stands for behind a backslash. -/
def letters : List (Char × Char) :=
  [('"', '"'), ('\\', '\\'), ('/', '/'), ('b', '\x08'), ('f', '\x0c'), ('n', '\n'), ('r', '\r'),
    ('t', '\t')]

/-- Reads the number that four hexadecimal digits write. -/
def code? : List Char → Option (Nat × List Char)
  | a :: b :: c :: d :: rest => do
    let digits ← [a, b, c, d].mapM hexValue?
    return (digits.foldl (fun value digit => value * 16 + digit) 0, rest)
  | _ => none

/-- Whether a number is the first half of a pair that stands for one character. -/
def isHigh (code : Nat) : Bool :=
  0xD800 ≤ code && code < 0xDC00

/-- Whether a number is the second half of a pair that stands for one character. -/
def isLow (code : Nat) : Bool :=
  0xDC00 ≤ code && code < 0xE000

/-- The character that a pair of numbers stands for. -/
def paired (high low : Nat) : Char :=
  Char.ofNat (0x10000 + (high - 0xD800) * 0x400 + (low - 0xDC00))

/-- A character inside quotes: itself, or behind a backslash its letter, its number, or the pair of
numbers for it. -/
inductive Character : List Char → Char → List Char → Prop where
  | plain {c : Char} {rest : List Char} :
      c ≠ '"' → c ≠ '\\' → 0x20 ≤ c.toNat → Character (c :: rest) c rest
  | letter {name c : Char} {rest : List Char} :
      letters.lookup name = some c → Character ('\\' :: name :: rest) c rest
  | code {text rest : List Char} {code : Nat} :
      code? text = some (code, rest) → isHigh code = false → isLow code = false →
        Character ('\\' :: 'u' :: text) (Char.ofNat code) rest
  | pair {text middle rest : List Char} {high low : Nat} :
      code? text = some (high, '\\' :: 'u' :: middle) → isHigh high = true →
        code? middle = some (low, rest) → isLow low = true →
          Character ('\\' :: 'u' :: text) (paired high low) rest

/-- The characters of a text, with the quote that ends it. -/
inductive Characters : List Char → List Char → List Char → Prop where
  | done {rest : List Char} : Characters ('"' :: rest) [] rest
  | more {text middle rest value : List Char} {c : Char} :
      Character text c middle → Characters middle value rest → Characters text (c :: value) rest

/-! ## Values -/

/-- How a text is related to the part of a document that it begins with and to the text behind
it. -/
abbrev Part (α : Type) :=
  List Char → α → List Char → Prop

/-- A part with the blanks around it. -/
inductive Padded {α : Type} (part : Part α) : Part α where
  | mk {text start behind rest : List Char} {value : α} :
      Blanks text start → part start value behind → Blanks behind rest → Padded part text value rest

/-- A name in quotes and, behind a colon, its value. -/
inductive Field {α : Type} (part : Part α) : Part (String × α) where
  | mk {text name key behind start rest : List Char} {value : α} :
      Blanks text ('"' :: key) → Characters key name behind → Blanks behind (':' :: start) →
        Padded part start value rest → Field part text (String.ofList name, value) rest

/-- Entries with commas between them, at least one, and the mark that closes them. -/
inductive Entries {α : Type} (entry : Part α) (close : Char) : Part (List α) where
  | last {text rest : List Char} {value : α} :
      entry text value (close :: rest) → Entries entry close text [value] rest
  | more {text later rest : List Char} {value : α} {values : List α} :
      entry text value (',' :: later) → Entries entry close later values rest →
        Entries entry close text (value :: values) rest

/-- Any number of entries, with the mark that closes them. -/
inductive Enclosed {α : Type} (entry : Part α) (close : Char) : Part (List α) where
  | empty {text rest : List Char} :
      Blanks text (close :: rest) → Enclosed entry close text [] rest
  | filled {text rest : List Char} {values : List α} :
      Entries entry close text values rest → Enclosed entry close text values rest

/-- The words that stand for a value. -/
def words : List (List Char × Value) :=
  [("null".toList, .null), ("true".toList, .flag true), ("false".toList, .flag false)]

/-- A value. -/
inductive Derives : Part Value where
  | word {word rest : List Char} {value : Value} :
      (word, value) ∈ words → Derives (word ++ rest) value rest
  | number {literal rest : List Char} :
      isNumber literal = true → Derives (literal ++ rest) (.number literal) rest
  | text {text value rest : List Char} :
      Characters text value rest → Derives ('"' :: text) (.text (String.ofList value)) rest
  | list {text rest : List Char} {items : List Value} :
      Enclosed (Padded Derives) ']' text items rest → Derives ('[' :: text) (.list items) rest
  | record {text rest : List Char} {fields : List (String × Value)} :
      Enclosed (Field Derives) '\x7d' text fields rest →
        Derives ('\x7b' :: text) (.record fields) rest

/-- Whether a text is a document of a value. -/
def IsDocument (text : List Char) (value : Value) : Prop :=
  Padded Derives text value []

/-! ## What is written for a tree -/

mutual

/-- The value that a document tree stands for. -/
def ofNode : Node → Value
  | .text value => .text value
  | .flag value => .flag value
  | .list items => .list (ofItems items)
  | .record fields => .record (ofFields fields)

/-- The values of the items of a list. -/
def ofItems : List Node → List Value
  | [] => []
  | item :: more => ofNode item :: ofItems more

/-- The fields of a record with their values. -/
def ofFields : List (String × Node) → List (String × Value)
  | [] => []
  | (name, value) :: more => (name, ofNode value) :: ofFields more

end

/-- A hexadecimal digit has the value that it was written for. -/
theorem hexValue?_hexDigit (value : Nat) : hexValue? (hexDigit value) = some (value % 16) := by
  have digits : ∀ value < 16, hexValue? (Nat.digitChar value) = some value := by decide
  exact digits _ (Nat.mod_lt _ (by decide))

/-- What is written for a character stands for it. -/
theorem character_escaped (c : Char) (rest : List Char) :
    Character (escaped c ++ rest) c rest := by
  have letter {name : Char} {code : Nat} (same : c.toNat = code)
      (means : letters.lookup name = some (Char.ofNat code)) :
      Character (['\\', name] ++ rest) c rest := by
    refine .letter ?_
    rw [means, ← same, Char.ofNat_toNat]
  unfold escaped
  split
  · subst c
    exact .letter rfl
  split
  · subst c
    exact .letter rfl
  rename_i quote backslash
  iterate 5
    split
    · rename_i same
      exact letter same rfl
  split
  · rename_i control
    have written : code? ('0' :: '0' :: hexDigit (c.toNat / 16) :: hexDigit c.toNat :: rest) =
        some (c.toNat, rest) := by
      have zero : hexValue? '0' = some 0 := by decide
      have small : c.toNat / 16 % 16 * 16 + c.toNat % 16 = c.toNat := by omega
      simp [code?, zero, hexValue?_hexDigit, small]
    have high : isHigh c.toNat = false := by simp [isHigh]; omega
    have low : isLow c.toNat = false := by simp [isLow]; omega
    have read := Character.code written high low
    rwa [Char.ofNat_toNat] at read
  · rename_i shown
    exact .plain quote backslash (Nat.le_of_not_lt shown)

/-- What is written between quotes stands for the text. -/
theorem characters_escaped (text rest : List Char) :
    Characters (text.flatMap escaped ++ '"' :: rest) text rest := by
  induction text with
  | nil => exact .done
  | cons c text inductionHypothesis =>
      rw [List.flatMap_cons, List.append_assoc]
      exact .more (character_escaped c _) inductionHypothesis

/-- A new line is blank. -/
theorem blanks_newLine (depth : Nat) (rest : List Char) : Blanks (newLine depth ++ rest) rest := by
  have spaces (count : Nat) : Blanks (List.replicate count ' ' ++ rest) rest := by
    induction count with
    | zero => exact .none
    | succ count inductionHypothesis => exact .more rfl inductionHypothesis
  exact .more rfl (spaces _)

/-- A quoted text is its escaped characters between two quotes. -/
theorem quoted_append (text : String) (rest : List Char) :
    quoted text ++ rest = '"' :: (text.toList.flatMap escaped ++ '"' :: rest) := by
  simp [quoted]

/-- What is written for the items of a list are its items. -/
theorem items_written {item : Node} {more : List Node}
    (written : ∀ node ∈ item :: more, ∀ depth rest,
      Derives (Json.node depth node ++ rest) (ofNode node) rest)
    (depth : Nat) (rest : List Char) :
    Entries (Padded Derives) ']'
      (newLine (depth + 1) ++ (Json.node (depth + 1) item ++ (items depth more ++
        (newLine depth ++ ']' :: rest))))
      (ofItems (item :: more)) rest := by
  induction more generalizing item with
  | nil =>
      exact .last (.mk (blanks_newLine _ _) (written item List.mem_cons_self _ _)
        (blanks_newLine depth _))
  | cons next more inductionHypothesis =>
      have later := inductionHypothesis fun node member =>
        written node (List.mem_cons_of_mem item member)
      have text : items depth (next :: more) ++ (newLine depth ++ ']' :: rest) =
          ',' :: (newLine (depth + 1) ++ (Json.node (depth + 1) next ++ (items depth more ++
            (newLine depth ++ ']' :: rest)))) := by
        simp [items]
      rw [text, ofItems]
      exact .more (.mk (blanks_newLine _ _) (written item List.mem_cons_self _ _) .none) later

/-- What is written for the fields of a record are its fields. -/
theorem fields_written {name : String} {value : Node} {more : List (String × Node)}
    (written : ∀ field ∈ (name, value) :: more, ∀ depth rest,
      Derives (Json.node depth field.2 ++ rest) (ofNode field.2) rest)
    (depth : Nat) (rest : List Char) :
    Entries (Field Derives) '\x7d'
      (newLine (depth + 1) ++ (quoted name ++ ':' :: ' ' :: (Json.node (depth + 1) value ++
        (fields depth more ++ (newLine depth ++ '\x7d' :: rest)))))
      (ofFields ((name, value) :: more)) rest := by
  have blank {rest : List Char} : Blanks (' ' :: rest) rest := .more (by decide) .none
  have field {name : String} {start rest : List Char} {value : Value}
      (padded : Padded Derives (' ' :: start) value rest) :
      Field Derives (newLine (depth + 1) ++ (quoted name ++ ':' :: ' ' :: start)) (name, value)
        rest := by
    rw [quoted_append]
    have read := Field.mk (blanks_newLine (depth + 1) _) (characters_escaped name.toList _)
      .none padded
    rwa [String.ofList_toList] at read
  induction more generalizing name value with
  | nil =>
      have first := written (name, value) List.mem_cons_self
      exact .last (field (.mk blank (first (depth + 1) _) (blanks_newLine depth _)))
  | cons next more inductionHypothesis =>
      obtain ⟨nextName, nextValue⟩ := next
      have first := written (name, value) List.mem_cons_self
      have later := inductionHypothesis fun field member =>
        written field (List.mem_cons_of_mem _ member)
      have text :
          fields depth ((nextName, nextValue) :: more) ++ (newLine depth ++ '\x7d' :: rest) =
          ',' :: (newLine (depth + 1) ++ (quoted nextName ++ ':' :: ' ' ::
            (Json.node (depth + 1) nextValue ++ (fields depth more ++
              (newLine depth ++ '\x7d' :: rest))))) := by
        simp [fields]
      rw [text]
      exact .more (field (.mk blank (first (depth + 1) _) .none)) later

/-- What is written for a tree is its value, at every depth and whatever stands behind it. -/
theorem derives_node (node : Node) (depth : Nat) (rest : List Char) :
    Derives (Json.node depth node ++ rest) (ofNode node) rest := by
  induction node using Node.induct generalizing depth rest with
  | text value =>
      rw [Json.node, quoted_append]
      have read := Derives.text (characters_escaped value.toList rest)
      rwa [String.ofList_toList] at read
  | flag value =>
      have listed : ((if value then "true" else "false").toList, Value.flag value) ∈ words := by
        cases value <;> simp [words]
      exact .word listed
  | list items inductionHypothesis =>
      cases items with
      | nil => exact .list (.empty .none)
      | cons item more =>
          have inside := items_written inductionHypothesis depth rest
          have text : Json.node depth (.list (item :: more)) ++ rest =
              '[' :: (newLine (depth + 1) ++ (Json.node (depth + 1) item ++
                (Json.items depth more ++ (newLine depth ++ ']' :: rest)))) := by
            simp [Json.node]
          rw [text]
          exact .list (.filled inside)
  | record fields inductionHypothesis =>
      cases fields with
      | nil => exact .record (.empty .none)
      | cons field more =>
          obtain ⟨name, value⟩ := field
          have inside := fields_written inductionHypothesis depth rest
          have text : Json.node depth (.record ((name, value) :: more)) ++ rest = '\x7b' ::
              (newLine (depth + 1) ++ (quoted name ++ ':' :: ' ' ::
                (Json.node (depth + 1) value ++ (Json.fields depth more ++
                  (newLine depth ++ '\x7d' :: rest))))) := by
            simp [Json.node]
          rw [text]
          exact .record (.filled inside)

/-- What is written for a tree is a document of its value. -/
theorem isDocument_node (node : Node) : IsDocument (Json.node 0 node) (ofNode node) := by
  have whole := derives_node node 0 []
  rw [List.append_nil] at whole
  exact .mk .none whole .none

end MemoStore.Document.Json
