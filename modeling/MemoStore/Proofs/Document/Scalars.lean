import MemoStore.Document.Yaml

/-!
# Reading scalars

A reader of the four styles that a text is written in, each from its own rules: a plain text goes
on to the end of its line and must not read as anything else, a single-quoted one has its quotes
doubled and its lines indented, a double-quoted one has its characters escaped, and a literal block
goes on as long as its lines are indented. `scalar?_scalarText` says that each text is read
back from the style that is chosen for it, whatever stands behind it.
-/

namespace MemoStore.Document.Yaml

/-! ## What may stand behind a block -/

/-- Whether the rest of a document is empty or goes on with a line that is indented by less than
`column`. -/
def Outside (column : Nat) (rest : List Char) : Prop :=
  rest = [] ∨ ∃ indent c more, rest = spaces indent ++ c :: more ∧ indent < column ∧ c ≠ ' ' ∧
    isBreak c = false

/-! ## Indented lines -/

/-- A line end stays at the start of its line. -/
theorem indented_break {indent text : List Char} {broken : Bool} {c : Char}
    (ends : isBreak c = true) :
    indented indent broken (c :: text) = c :: indented indent true text := by
  rw [indented, if_pos ends]

/-- What begins a line is indented. -/
theorem indented_cons {indent text : List Char} {broken : Bool} {c : Char}
    (within : isBreak c = false) :
    indented indent broken (c :: text) =
      (if broken then indent else []) ++ c :: indented indent false text := by
  cases broken <;> simp [indented, within]

/-- Whether a line begins behind a text; `broken` says whether one begins in front of it. -/
def leavesBroken (broken : Bool) (text : List Char) : Bool :=
  (text.getLast?.map isBreak).getD broken

/-- Whether a text ends in a break is decided from left to right. -/
theorem leavesBroken_cons {broken : Bool} {c : Char} {text : List Char} :
    leavesBroken broken (c :: text) = leavesBroken (isBreak c) text := by
  cases text <;> simp [leavesBroken, List.getLast?_cons]

/-- Of two texts the second begins as the first leaves off. -/
theorem leavesBroken_append {broken : Bool} {first second : List Char} :
    leavesBroken broken (first ++ second) = leavesBroken (leavesBroken broken first) second := by
  induction first generalizing broken with
  | nil => rfl
  | cons c first inductionHypothesis =>
      rw [List.cons_append, leavesBroken_cons, leavesBroken_cons]
      exact inductionHypothesis

/-- A text that ends within a line does so wherever it begins. -/
theorem leavesBroken_of_last {broken : Bool} {text : List Char} {c : Char}
    (within : isBreak c = false) : leavesBroken broken (text ++ [c]) = false := by
  rw [leavesBroken_append]
  exact within

/-- A line is ended by a line feed unless it ends itself. -/
theorem ended_eq {line : List Char} :
    ended line = line ++ if leavesBroken false line then [] else ['\n'] := by
  unfold ended leavesBroken
  cases line.getLast? with
  | none => simp
  | some c => cases ends : isBreak c <;> simp [ends]

/-- The end of a line stands behind the last piece of it. -/
theorem ended_append {opening line : List Char} (nonempty : line ≠ []) :
    ended (opening ++ line) = opening ++ ended line := by
  obtain ⟨c, line, rfl⟩ := List.exists_cons_of_ne_nil nonempty
  rw [ended_eq, ended_eq, leavesBroken_append, leavesBroken_cons, leavesBroken_cons,
    List.append_assoc]

/-! ## Plain texts -/

/-- What a plain word means: a flag, an empty list or record, or itself. -/
def plain? (word : List Char) : Option Node :=
  if word = "true".toList then some (.flag true)
  else if word = "false".toList then some (.flag false)
  else if word = "[]".toList then some (.list [])
  else if word = "\x7b\x7d".toList then some (.record [])
  else if readsAsOther word || readsAsStructure word then none
  else some (.text (String.ofList word))

/-- The first line of a text, without its line feed. -/
def line (text : List Char) : List Char :=
  text.takeWhile (· != '\n')

/-- What stands behind the first line of a text. -/
def afterLine (text : List Char) : List Char :=
  (text.dropWhile (· != '\n')).drop 1

/-- The first line of a text ends at the first line feed. -/
theorem line_append {text : List Char} (unbroken : '\n' ∉ text) (rest : List Char) :
    line (text ++ '\n' :: rest) = text ∧ afterLine (text ++ '\n' :: rest) = rest := by
  have within : ∀ c ∈ text, (c != '\n') = true := fun c member =>
    bne_iff_ne.mpr fun same => unbroken (same ▸ member)
  constructor
  · rw [line, List.takeWhile_append_of_pos within]
    simp
  · rw [afterLine, List.dropWhile_append_of_pos within]
    simp

/-- What is known of a text that is written plainly. -/
theorem plain_of_style {text : List Char} (plain : Style.of text = .plain) :
    '\n' ∉ text ∧ readsAsOther text = false ∧ readsAsStructure text = false := by
  unfold Style.of at plain
  split at plain
  · split at plain <;> cases plain
  · rename_i unbroken
    split at plain
    · cases plain
    · split at plain
      · cases plain
      · rename_i harmless
        simp only [List.contains_iff_mem] at unbroken
        simpa [unbroken] using harmless

/-- A text that is written plainly means itself. -/
theorem plain?_text {text : List Char} (plain : Style.of text = .plain) :
    plain? text = some (.text (String.ofList text)) := by
  obtain ⟨-, other, structural⟩ := plain_of_style plain
  have notTrue : text ≠ "true".toList := by
    rintro rfl
    exact absurd other (by decide +kernel)
  have notFalse : text ≠ "false".toList := by
    rintro rfl
    exact absurd other (by decide +kernel)
  have notList : text ≠ "[]".toList := by
    rintro rfl
    exact absurd structural (by decide +kernel)
  have notRecord : text ≠ "\x7b\x7d".toList := by
    rintro rfl
    exact absurd structural (by decide +kernel)
  rw [plain?, if_neg notTrue, if_neg notFalse, if_neg notList, if_neg notRecord, other, structural]
  rfl

/-! ## Texts between single quotes -/

/-- What is read, with a character in front of the text. -/
def withFirst (c : Char) (read : List Char × List Char) : List Char × List Char :=
  (c :: read.1, read.2)

/-- Reads a text between single quotes from behind the opening one on. `broken` says whether a line
begins, whose indentation is passed over. -/
def single? : Bool → List Char → Option (List Char × List Char)
  | _, '\'' :: '\'' :: rest => (single? false rest).map (withFirst '\'')
  | _, '\'' :: rest => some ([], rest)
  | broken, c :: rest =>
    if broken && c == ' ' then single? true rest else (single? (isBreak c) rest).map (withFirst c)
  | _, [] => none

/-- A doubled quote is read as one. -/
theorem single?_quote (broken : Bool) (rest : List Char) :
    single? broken ('\'' :: '\'' :: rest) = (single? false rest).map (withFirst '\'') := by
  rw [single?]

/-- A quote in front of a line feed closes the scalar. -/
theorem single?_close (broken : Bool) (rest : List Char) :
    single? broken ('\'' :: '\n' :: rest) = some ([], '\n' :: rest) := by
  rw [single?]
  simp

/-- Any other character is read as itself, but for the spaces that indent a line. -/
theorem single?_cons (broken : Bool) {c : Char} (unquoted : c ≠ '\'') (rest : List Char) :
    single? broken (c :: rest) =
      if broken && c == ' ' then single? true rest
      else (single? (isBreak c) rest).map (withFirst c) := by
  rw [single?] <;> simp [unquoted]

/-- The indentation of a line is passed over. -/
theorem single?_spaces (count : Nat) (rest : List Char) :
    single? true (spaces count ++ rest) = single? true rest := by
  induction count with
  | zero => rfl
  | succ count inductionHypothesis =>
      exact (single?_cons true (by decide) _).trans inductionHypothesis

/-- The spaces behind a break are passed over. -/
theorem single?_indentation (broken : Bool) (count : Nat) (rest : List Char) :
    single? broken ((if broken then spaces count else []) ++ rest) = single? broken rest := by
  cases broken with
  | true => exact single?_spaces count rest
  | false => rfl

/-- A pair of characters at the start of a text, or within it. -/
theorem hasPair_cons {p q : Char → Bool} {c : Char} {text : List Char} :
    hasPair p q (c :: text) = (p c && text.head?.any q || hasPair p q text) := by
  cases text <;> simp [hasPair]

/-- A text with its quotes doubled. -/
def doubled (text : List Char) : List Char :=
  text.flatMap fun c => if c = '\'' then ['\'', '\''] else [c]

/-- A quote is doubled. -/
theorem doubled_quote {text : List Char} :
    doubled ('\'' :: text) = '\'' :: '\'' :: doubled text := rfl

/-- Any other character is written once. -/
theorem doubled_cons {c : Char} {text : List Char} (unquoted : c ≠ '\'') :
    doubled (c :: text) = c :: doubled text := by
  simp [doubled, unquoted]

/-- What is written between single quotes is read back. `broken` says whether a line begins. -/
theorem single?_indented (column : Nat) (rest : List Char) {text : List Char} (broken : Bool)
    (inner : hasSpaceAfterBreak text = false) (first : broken = true → text.head? ≠ some ' ') :
    single? broken
        (indented (spaces column) broken (doubled text) ++
          ((if leavesBroken broken text then spaces column else []) ++ '\'' :: '\n' :: rest)) =
      some (text, '\n' :: rest) := by
  induction text generalizing broken with
  | nil =>
      exact (single?_indentation broken column _).trans (single?_close broken rest)
  | cons c text inductionHypothesis =>
      rw [hasSpaceAfterBreak, hasPair_cons, Bool.or_eq_false_iff] at inner
      rw [leavesBroken_cons]
      by_cases ends : isBreak c = true
      · have unquoted : c ≠ '\'' := by rintro rfl; cases ends
        have unspaced : c ≠ ' ' := by rintro rfl; cases ends
        have later := inductionHypothesis true inner.2 fun _ same => by simp [ends, same] at inner
        rw [doubled_cons unquoted, indented_break ends, List.cons_append, single?_cons _ unquoted,
          ends, later]
        simp [unspaced, withFirst]
      · have within : isBreak c = false := by simpa using ends
        have later := inductionHypothesis false inner.2 nofun
        rw [within]
        by_cases quote : c = '\''
        · subst quote
          rw [doubled_quote, indented_cons within, indented_cons (by decide), List.append_assoc,
            single?_indentation]
          simp only [List.cons_append, Bool.false_eq_true, if_false, List.nil_append, single?_quote,
            later]
          rfl
        · have kept : (broken && c == ' ') = false := by
            cases broken with
            | false => rfl
            | true => simpa using first rfl
          rw [doubled_cons quote, indented_cons within, List.append_assoc, single?_indentation,
            List.cons_append, single?_cons _ quote, kept, within, later]
          rfl

/-! ## Texts between double quotes -/

/-- The character with a code in hexadecimal digits. -/
def ofHex (digits : List Char) : Char :=
  Char.ofNat (digits.foldl (fun value c => value * 16 + digitValue c) 0)

/-- The character that a letter stands for behind a backslash. -/
def named? : Char → Option Char
  | '"' => some '"'
  | '\\' => some '\\'
  | '0' => some '\x00'
  | 'a' => some '\x07'
  | 'b' => some '\x08'
  | 't' => some '\t'
  | 'n' => some '\n'
  | 'v' => some '\x0b'
  | 'f' => some '\x0c'
  | 'r' => some '\r'
  | 'e' => some '\x1b'
  | 'N' => some '\u0085'
  | 'L' => some '\u2028'
  | 'P' => some '\u2029'
  | _ => none

/-- Reads a text between double quotes from behind the opening one on. -/
def double? : List Char → Option (List Char × List Char)
  | '"' :: rest => some ([], rest)
  | '\\' :: 'x' :: a :: b :: rest => (double? rest).map (withFirst (ofHex [a, b]))
  | '\\' :: 'u' :: a :: b :: c :: d :: rest => (double? rest).map (withFirst (ofHex [a, b, c, d]))
  | '\\' :: letter :: rest =>
    (named? letter).bind fun c => (double? rest).map (withFirst c)
  | c :: rest => (double? rest).map (withFirst c)
  | [] => none

/-- What an escape of a character is: the character as it is, or behind a backslash its letter or
its code. -/
inductive Escape (c : Char) : List Char → Prop where
  | shown : c ≠ '"' → c ≠ '\\' → Escape c [c]
  | named {letter : Char} : named? letter = some c → Escape c ['\\', letter]
  | short {a b : Char} : ofHex [a, b] = c → Escape c ['\\', 'x', a, b]
  | long {a b d e : Char} : ofHex [a, b, d, e] = c → Escape c ['\\', 'u', a, b, d, e]

/-- An escape is read back. -/
theorem Escape.read {c : Char} {written : List Char} (escape : Escape c written)
    (rest : List Char) : double? (written ++ rest) = (double? rest).map (withFirst c) := by
  cases escape with
  | shown quote backslash => rw [List.singleton_append, double?] <;> simp [quote, backslash]
  | @named letter means =>
      have short : letter ≠ 'x' := by rintro rfl; cases means
      have long : letter ≠ 'u' := by rintro rfl; cases means
      simp [double?, short, long, means]
  | short means => simp [double?, means]
  | long means => simp [double?, means]

/-- The digits of a number stand for it, as far as they reach. -/
theorem foldl_hexDigits (width value : Nat) :
    (hexDigits width value).foldl (fun value c => value * 16 + digitValue c) 0 =
      value % Nat.pow 16 width := by
  have digit : ∀ value < 16, digitValue (Nat.digitChar value).toUpper = value := by decide
  induction width generalizing value with
  | zero => simp [hexDigits, Nat.mod_one]
  | succ width inductionHypothesis =>
      have power : Nat.pow 16 (width + 1) = 16 * Nat.pow 16 width := Nat.pow_succ'
      rw [hexDigits, List.foldl_append, inductionHypothesis, List.foldl_cons, List.foldl_nil,
        digit _ (Nat.mod_lt _ (by decide)), power, Nat.mod_mul]
      omega

/-- The digits of the code of a character stand for it. -/
theorem ofHex_hexDigits {width : Nat} {c : Char} (within : c.toNat < Nat.pow 16 width) :
    ofHex (hexDigits width c.toNat) = c := by
  rw [ofHex, foldl_hexDigits, Nat.mod_eq_of_lt within, Char.ofNat_toNat]

/-- A character whose code needs more than four digits can be shown. -/
theorem toNat_lt_of_hidden {c : Char} (hidden : ¬ (isPrintable c && !isBreak c) = true) :
    c.toNat < Nat.pow 16 4 := by
  refine Nat.lt_of_not_le fun large => hidden ?_
  have power : Nat.pow 16 4 = 0x10000 := rfl
  have shown : isPrintable c = true := by
    simp only [isPrintable, Bool.or_eq_true, decide_eq_true_eq]
    omega
  have within : isBreak c = false := by
    simp only [isBreak, Bool.or_eq_false_iff, beq_eq_false_iff_ne]
    refine ⟨⟨?_, ?_⟩, ?_⟩ <;>
      · rintro rfl
        exact absurd large (by decide)
  rw [shown, within]
  rfl

/-- What a character is written as between double quotes is an escape of it. -/
theorem escape_escaped (c : Char) : Escape c (escaped c) := by
  unfold escaped
  split
  · subst c
    exact .named rfl
  split
  · subst c
    exact .named rfl
  rename_i quote backslash
  split
  · exact .shown quote backslash
  rename_i hidden
  have letter {code : Nat} (same : c.toNat = code) : Char.ofNat code = c := by
    rw [← same, Char.ofNat_toNat]
  split
  case h_13 =>
    split
    · rename_i short
      have read : ofHex (hexDigits 2 c.toNat) = c := ofHex_hexDigits short
      exact .short read
    · have read : ofHex (hexDigits 4 c.toNat) = c := ofHex_hexDigits (toNat_lt_of_hidden hidden)
      exact .long read
  all_goals
    rename_i same
    exact .named (congrArg some (letter same))

/-- What is written between double quotes is read back. -/
theorem double?_escaped (text rest : List Char) :
    double? (text.flatMap escaped ++ '"' :: rest) = some (text, rest) := by
  induction text with
  | nil => simp [double?]
  | cons c text inductionHypothesis =>
      rw [List.flatMap_cons, List.append_assoc, (escape_escaped c).read, inductionHypothesis]
      rfl

/-! ## Literal blocks -/

/-- Reads the lines of a literal block that stand at a column, up to the first line that does not.
`skipped` is how much of an indentation is to be passed over, and `broken` says whether a line
begins. -/
def blockText (column : Nat) : Nat → Bool → List Char → List Char × List Char
  | _, _, [] => ([], [])
  | skipped + 1, broken, _ :: rest => blockText column skipped broken rest
  | 0, broken, c :: rest =>
    if isBreak c then withFirst c (blockText column 0 true rest)
    else if broken then
      if (spaces column).isPrefixOf (c :: rest) then blockText column (column - 1) false rest
      else ([], c :: rest)
    else withFirst c (blockText column 0 false rest)

/-- The characters to skip are passed over. -/
theorem blockText_skipped (column : Nat) (indentation rest : List Char) :
    blockText column indentation.length false (indentation ++ rest) =
      blockText column 0 false rest := by
  induction indentation with
  | nil => rfl
  | cons c indentation inductionHypothesis =>
      rw [List.length_cons, List.cons_append, blockText]
      exact inductionHypothesis

/-- The indentation of a line of the block is passed over. -/
theorem blockText_spaces {column : Nat} (indented : 0 < column) (rest : List Char) :
    blockText column 0 true (spaces column ++ rest) = blockText column 0 false rest := by
  obtain ⟨width, rfl⟩ := Nat.exists_eq_succ_of_ne_zero (Nat.ne_of_gt indented)
  have opening : spaces (width + 1) ++ rest = ' ' :: (spaces width ++ rest) := rfl
  have fits : (spaces (width + 1)).isPrefixOf (' ' :: (spaces width ++ rest)) = true :=
    List.isPrefixOf_iff_prefix.mpr ⟨rest, rfl⟩
  have skipped := blockText_skipped (width + 1) (spaces width) rest
  rw [show (spaces width).length = width from List.length_replicate] at skipped
  rw [Nat.succ_eq_add_one, opening, blockText]
  simpa [show isBreak ' ' = false from rfl, fits] using skipped

/-- A line that is indented by less does not begin with the indentation. -/
theorem spaces_not_prefix {column indent : Nat} {c : Char} (less : indent < column)
    (unspaced : c ≠ ' ') (more : List Char) :
    (spaces column).isPrefixOf (spaces indent ++ c :: more) = false := by
  induction indent generalizing column with
  | zero =>
      obtain ⟨width, rfl⟩ := Nat.exists_eq_succ_of_ne_zero (Nat.ne_of_gt less)
      simp [spaces, List.replicate_succ, List.isPrefixOf, unspaced.symm]
  | succ indent inductionHypothesis =>
      obtain ⟨width, rfl⟩ := Nat.exists_eq_succ_of_ne_zero (Nat.ne_of_gt (Nat.zero_lt_of_lt less))
      have inner := inductionHypothesis (Nat.lt_of_succ_lt_succ less)
      simpa [spaces, List.replicate_succ, List.isPrefixOf] using inner

/-- A block ends where a line is indented by less. -/
theorem blockText_outside {column : Nat} {rest : List Char} (outside : Outside column rest) :
    blockText column 0 true rest = ([], rest) := by
  rcases outside with rfl | ⟨indent, c, more, rfl, less, unspaced, within⟩
  · rfl
  · have ends := spaces_not_prefix less unspaced more
    cases indent with
    | zero =>
        simp only [spaces, List.replicate_zero, List.nil_append] at ends ⊢
        simp [blockText, within, spaces, ends]
    | succ indent =>
        simp only [spaces, List.replicate_succ, List.cons_append] at ends ⊢
        simp [blockText, show isBreak ' ' = false from rfl, spaces, ends]

/-- The lines of a block are read back from their indented form. `broken` says whether a line
begins. -/
theorem blockText_indented {column : Nat} (positive : 0 < column) {rest : List Char}
    (outside : Outside column rest) {text : List Char} (broken : Bool)
    (closed : leavesBroken broken text = true) :
    blockText column 0 broken (indented (spaces column) broken text ++ rest) = (text, rest) := by
  induction text generalizing broken with
  | nil =>
      obtain rfl : broken = true := closed
      exact blockText_outside outside
  | cons c text inductionHypothesis =>
      rw [leavesBroken_cons] at closed
      by_cases ends : isBreak c = true
      · have later := inductionHypothesis true (ends ▸ closed)
        rw [indented_break ends, List.cons_append, blockText, if_pos ends, later]
        rfl
      · have within : isBreak c = false := by simpa using ends
        have later := inductionHypothesis false (within ▸ closed)
        have first : blockText column 0 broken ((if broken then spaces column else []) ++
            (c :: (indented (spaces column) false text ++ rest))) =
              blockText column 0 false (c :: (indented (spaces column) false text ++ rest)) := by
          cases broken with
          | true => exact blockText_spaces positive _
          | false => rfl
        rw [indented_cons within, List.append_assoc, List.cons_append, first, blockText,
          if_neg ends, if_neg Bool.false_ne_true, later]
        rfl

/-! ## The lines of a block -/

/-- An indented text ends in a break when the text does. -/
theorem leavesBroken_indented {column : Nat} {broken : Bool} {text : List Char} :
    leavesBroken broken (indented (spaces column) broken text) = leavesBroken broken text := by
  induction text generalizing broken with
  | nil => rfl
  | cons c text inductionHypothesis =>
      by_cases ends : isBreak c = true
      · rw [indented_break ends, leavesBroken_cons, leavesBroken_cons, ends]
        exact inductionHypothesis
      · have within : isBreak c = false := by simpa using ends
        rw [indented_cons within, leavesBroken_append, leavesBroken_cons, leavesBroken_cons, within]
        exact inductionHypothesis

/-- Whether a line begins behind a text that has characters does not depend on what is in front
of it. -/
theorem leavesBroken_congr {text : List Char} (nonempty : text ≠ []) (broken broken' : Bool) :
    leavesBroken broken text = leavesBroken broken' text := by
  obtain ⟨c, text, rfl⟩ := List.exists_cons_of_ne_nil nonempty
  rw [leavesBroken_cons, leavesBroken_cons]

/-- A filled text is filled when it is indented. -/
theorem indented_ne_nil (indent : List Char) (broken : Bool) {text : List Char}
    (nonempty : text ≠ []) : indented indent broken text ≠ [] := by
  obtain ⟨c, text, rfl⟩ := List.exists_cons_of_ne_nil nonempty
  unfold indented
  split
  · simp
  · split <;> simp

/-- What stands in front of the rest of an indented text does not depend on the rest. -/
theorem exists_lead (indent : List Char) (broken : Bool) (c : Char) :
    ∃ lead, ∀ text,
      indented indent broken (c :: text) = lead ++ indented indent (isBreak c) text := by
  by_cases ends : isBreak c = true
  · exact ⟨[c], fun text => by rw [indented_break ends, ends]; rfl⟩
  · have within : isBreak c = false := by simpa using ends
    refine ⟨(if broken then indent else []) ++ [c], fun text => ?_⟩
    rw [indented_cons within, within]
    simp

/-- A line feed at the start is a line by itself. -/
theorem blockLines_feed {text : List Char} :
    blockLines ('\n' :: text) = ['\n'] :: blockLines text := by
  rw [blockLines]

/-- Any other character opens the first of the lines behind it. -/
theorem blockLines_cons {c : Char} (other : c ≠ '\n') (text : List Char) :
    blockLines (c :: text) =
      (c :: (blockLines text).headD []) :: (blockLines text).tail := by
  rw [blockLines]
  · cases blockLines text <;> rfl
  · exact other

/-- A filled text has a line. -/
theorem blockLines_ne_nil {text : List Char} (nonempty : text ≠ []) : blockLines text ≠ [] := by
  obtain ⟨c, text, rfl⟩ := List.exists_cons_of_ne_nil nonempty
  by_cases feed : c = '\n'
  · simp [feed, blockLines_feed]
  · simp [blockLines_cons feed]

/-- No line of a block is empty. -/
theorem ne_nil_of_mem_blockLines {text line : List Char} (member : line ∈ blockLines text) :
    line ≠ [] := by
  induction text with
  | nil => cases member
  | cons c text inductionHypothesis =>
      by_cases feed : c = '\n'
      · subst feed
        rw [blockLines_feed] at member
        rcases List.mem_cons.mp member with rfl | later
        · simp
        · exact inductionHypothesis later
      · rw [blockLines_cons feed] at member
        rcases List.mem_cons.mp member with rfl | later
        · simp
        · exact inductionHypothesis (List.mem_of_mem_tail later)

/-- The lines of a block are the indented text, of which the last line is ended. -/
theorem flatMap_blockLines (column : Nat) (broken : Bool) {text line : List Char}
    {later : List (List Char)} (lines : blockLines text = line :: later) :
    ended (indented (spaces column) broken line) ++
        (later.map (indented (spaces column) true)).flatMap ended =
      indented (spaces column) broken text ++ if leavesBroken false text then [] else ['\n'] := by
  induction text generalizing broken line later with
  | nil => cases lines
  | cons c text inductionHypothesis =>
      obtain ⟨lead, leads⟩ := exists_lead (spaces column) broken c
      by_cases nonempty : text = []
      · subst nonempty
        obtain ⟨rfl, rfl⟩ : line = [c] ∧ later = [] := by
          by_cases feed : c = '\n'
          · subst feed
            cases lines
            exact ⟨rfl, rfl⟩
          · rw [blockLines_cons feed] at lines
            cases lines
            exact ⟨rfl, rfl⟩
        have single : [c] ≠ [] := List.cons_ne_nil c []
        have same :=
          leavesBroken_congr (indented_ne_nil (spaces column) broken single) false broken
        rw [ended_eq, same, leavesBroken_indented, leavesBroken_congr single broken false]
        simp
      · have same : leavesBroken false (c :: text) = leavesBroken false text := by
          rw [leavesBroken_cons]
          exact leavesBroken_congr nonempty _ _
        obtain ⟨next, others, inner⟩ := List.exists_cons_of_ne_nil (blockLines_ne_nil nonempty)
        have last := ne_nil_of_mem_blockLines (inner ▸ List.mem_cons_self)
        rw [leads, same, List.append_assoc, ← inductionHypothesis (isBreak c) inner]
        by_cases feed : c = '\n'
        · subst feed
          rw [blockLines_feed, inner] at lines
          cases lines
          have feed : lead = ['\n'] := by
            simpa [indented] using (leads []).symm.trans (indented_break rfl)
          have itself : ended (indented (spaces column) broken ['\n']) = ['\n'] := by
            rw [indented_break rfl]
            rfl
          rw [itself, feed]
          rfl
        · rw [blockLines_cons feed, inner] at lines
          cases lines
          rw [leads, List.headD_cons, ended_append (indented_ne_nil _ _ last)]
          simp

/-! ## Headers of blocks -/

/-- What stands behind the bar of a block header. -/
def headerMarks (text : List Char) : List Char :=
  (blockHeader text).tail

/-- The header of a block is its bar and its marks. -/
theorem blockHeader_eq (text : List Char) : blockHeader text = '|' :: headerMarks text := rfl

/-- A header says with a hyphen that its text does not end in a line end. -/
theorem headerMarks_spec (text : List Char) :
    '\n' ∉ headerMarks text ∧ leavesBroken false (headerMarks text) = false ∧
      ((headerMarks text).getLast? = some '-' ↔ leavesBroken false text = false) := by
  have last : leavesBroken false text = text.reverse.head?.any isBreak := by
    rw [leavesBroken, ← List.getLast?_eq_head?_reverse]
    cases text.getLast? <;> rfl
  rw [last, headerMarks, blockHeader]
  generalize (text.head?.any fun c => c == ' ' || isBreak c) = opens
  have marks : isBreak '2' = false ∧ isBreak '-' = false ∧ isBreak '+' = false := ⟨rfl, rfl, rfl⟩
  rcases text.reverse with _ | ⟨c, _ | ⟨before, more⟩⟩
  · cases opens <;> simp [leavesBroken, marks]
  · cases opens <;> cases ends : isBreak c <;> simp [leavesBroken, marks, ends]
  · cases opens <;> cases ends : isBreak c <;> cases double : isBreak before <;>
      simp [leavesBroken, marks, ends, double]

/-! ## Scalars -/

/-- What a text is written as, in the style that is chosen for it, where its lines stand at a
column. -/
def scalarText (column : Nat) (text : List Char) : List Char :=
  match Style.of text with
  | .plain => text ++ ['\n']
  | .singleQuoted => singleQuoted (spaces column) text ++ ['\n']
  | .doubleQuoted => doubleQuoted text ++ ['\n']
  | .block =>
    blockHeader text ++ '\n' :: (indented (spaces column) true text ++
      if leavesBroken false text then [] else ['\n'])

/-- What is known of a text that is written as a block. -/
theorem feed_mem_of_style {text : List Char} (block : Style.of text = .block) : '\n' ∈ text := by
  unfold Style.of at block
  split at block
  · rename_i broken
    simpa using broken
  · split at block
    · cases block
    · split at block <;> cases block

/-- What is known of a text that is written between single quotes. -/
theorem inner_of_style {text : List Char} (quoted : Style.of text = .singleQuoted) :
    hasSpaceAfterBreak text = false := by
  unfold Style.of at quoted
  split at quoted
  · split at quoted <;> cases quoted
  · split at quoted
    · cases quoted
    · rename_i fits
      simp only [fitsQuotes, Bool.not_eq_true', Bool.not_eq_false, Bool.and_eq_true] at fits
      exact fits.2

/-- A text that is written plainly has characters and no line end. -/
theorem within_of_plain {text : List Char} (plain : Style.of text = .plain) :
    text ≠ [] ∧ leavesBroken false text = false := by
  obtain ⟨-, other, structural⟩ := plain_of_style plain
  have nonempty : text ≠ [] := by
    rintro rfl
    cases other
  simp only [readsAsStructure, Bool.or_eq_false_iff] at structural
  refine ⟨nonempty, ?_⟩
  rw [← List.dropLast_concat_getLast nonempty]
  refine leavesBroken_of_last ?_
  simpa using List.any_eq_false.mp structural.1.1.2 _ (List.getLast_mem nonempty)

/-- The lines of a text are what it is written as. -/
theorem flatMap_scalarLines (opening : List Char) (column : Nat) (text : List Char) :
    (scalarLines opening column text).flatMap ended = opening ++ scalarText column text := by
  have alone (line : List Char) : [line].flatMap ended = ended line := by simp
  unfold scalarLines scalarText
  cases style : Style.of text with
  | plain =>
      obtain ⟨nonempty, within⟩ := within_of_plain style
      simp only [alone]
      rw [ended_append nonempty, ended_eq, within]
      rfl
  | singleQuoted =>
      have within : leavesBroken false (singleQuoted (spaces column) text) = false :=
        leavesBroken_of_last rfl
      simp only [alone]
      rw [ended_append (by simp [singleQuoted]), ended_eq, within]
      rfl
  | doubleQuoted =>
      have within : leavesBroken false (doubleQuoted text) = false := leavesBroken_of_last rfl
      simp only [alone]
      rw [ended_append (by simp [doubleQuoted]), ended_eq, within]
      rfl
  | block =>
      obtain ⟨-, within, -⟩ := headerMarks_spec text
      obtain ⟨line, later, lines⟩ := List.exists_cons_of_ne_nil
        (blockLines_ne_nil (List.ne_nil_of_mem (feed_mem_of_style style)))
      have header : leavesBroken false (blockHeader text) = false := by
        rw [blockHeader_eq, leavesBroken_cons]
        exact within
      simp only [List.flatMap_cons, lines, List.map_cons]
      rw [ended_append (by simp [blockHeader_eq]), ended_eq, header,
        flatMap_blockLines column true lines]
      simp

/-- A quoted text with its line feed. -/
def closed? : Option (List Char × List Char) → Option (Node × List Char)
  | some (text, '\n' :: rest) => some (.text (String.ofList text), rest)
  | _ => none

/-- Reads a scalar whose lines stand at a column. -/
def scalar? (column : Nat) : List Char → Option (Node × List Char)
  | '\'' :: rest => closed? (single? false rest)
  | '"' :: rest => closed? (double? rest)
  | '|' :: rest =>
    let (text, left) := blockText column 0 true (afterLine rest)
    let text := if (line rest).getLast? = some '-' then text.dropLast else text
    some (.text (String.ofList text), left)
  | text => (plain? (line text)).map fun node => (node, afterLine text)

/-- A plain word is read to the end of its line. -/
theorem scalar?_word (column : Nat) {c : Char} {word : List Char} {node : Node}
    (single : c ≠ '\'') (double : c ≠ '"') (block : c ≠ '|') (unbroken : '\n' ∉ c :: word)
    (means : plain? (c :: word) = some node) (rest : List Char) :
    scalar? column (c :: word ++ '\n' :: rest) = some (node, rest) := by
  obtain ⟨first, later⟩ := line_append unbroken rest
  rw [List.cons_append] at first later ⊢
  rw [scalar?, first, later, means]
  · rfl
  · simp [single]
  · simp [double]
  · simp [block]

/-- A line feed at the end is not indented. -/
theorem indented_feed {indent text : List Char} {broken : Bool} :
    indented indent broken (text ++ ['\n']) = indented indent broken text ++ ['\n'] := by
  induction text generalizing broken with
  | nil => exact indented_break rfl
  | cons c text inductionHypothesis =>
      obtain ⟨lead, leads⟩ := exists_lead indent broken c
      rw [List.cons_append, leads, leads, inductionHypothesis, List.append_assoc]

/-- Every text is read back from what it is written as. -/
theorem scalar?_scalarText {column : Nat} (positive : 0 < column) {rest : List Char}
    (outside : Outside column rest) (text : List Char) :
    scalar? column (scalarText column text ++ rest) = some (.text (String.ofList text), rest) := by
  unfold scalarText
  cases style : Style.of text with
  | plain =>
      obtain ⟨unbroken, -, structural⟩ := plain_of_style style
      obtain ⟨c, more, rfl⟩ := List.exists_cons_of_ne_nil (within_of_plain style).1
      simp only [readsAsStructure, Bool.or_eq_false_iff] at structural
      have opens : opensStructure (c :: more) = false := structural.1.1.1.1
      have single : c ≠ '\'' := by rintro rfl; cases opens
      have double : c ≠ '"' := by rintro rfl; cases opens
      have block : c ≠ '|' := by rintro rfl; cases opens
      rw [List.append_assoc]
      exact scalar?_word column single double block unbroken (plain?_text style) rest
  | singleQuoted =>
      have read := single?_indented column rest false (inner_of_style style) nofun
      have ending : leavesBroken false text = text.getLast?.any isBreak := by
        unfold leavesBroken
        cases text.getLast? <;> rfl
      rw [ending] at read
      have written : singleQuoted (spaces column) text ++ ['\n'] ++ rest =
          '\'' :: (indented (spaces column) false (doubled text) ++
            ((if text.getLast?.any isBreak then spaces column else []) ++
              '\'' :: '\n' :: rest)) := by
        simp [singleQuoted, doubled]
      simp only [written, scalar?, read, closed?]
  | doubleQuoted =>
      have read := double?_escaped text ('\n' :: rest)
      simp [doubleQuoted, scalar?, read, closed?]
  | block =>
      obtain ⟨unbroken, -, strips⟩ := headerMarks_spec text
      have nonempty := List.ne_nil_of_mem (feed_mem_of_style style)
      have written (body : List Char) : blockHeader text ++ '\n' :: body ++ rest =
          '|' :: (headerMarks text ++ '\n' :: (body ++ rest)) := by
        simp [blockHeader_eq]
      simp only [written, scalar?, (line_append unbroken _).1, (line_append unbroken _).2]
      cases ends : leavesBroken false text with
      | true =>
          have closed := (leavesBroken_congr nonempty true false).trans ends
          have kept : ¬ (headerMarks text).getLast? = some '-' := by simp [strips, ends]
          simp [blockText_indented positive outside true closed, kept]
      | false =>
          have closed : leavesBroken true (text ++ ['\n']) = true := by
            rw [leavesBroken_append]
            rfl
          have dropped : (headerMarks text).getLast? = some '-' := strips.mpr ends
          have read := blockText_indented positive outside true closed
          rw [indented_feed, List.append_assoc, List.singleton_append] at read
          simp [read, dropped]

end MemoStore.Document.Yaml
