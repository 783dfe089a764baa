import ChainRules.Json.Print
import ChainRules.Json.Token
import ChainRules.Proofs.Bytes.Hex
import ChainRules.Proofs.Text.Decimal
import Mathlib

set_option autoImplicit false

namespace ChainRules

def JsonText.Written (units : JsonText) : Prop := ∃ chars : List Char, units = chars.map JsonUnit.ofChar

namespace Json

mutual

def Written : Json → Prop
  | .real _ => False
  | .text units => JsonText.Written units
  | .array elements => WrittenElements elements
  | .object members => WrittenMembers members
  | _ => True

def WrittenElements : List Json → Prop
  | [] => True
  | element :: rest => Written element ∧ WrittenElements rest

def WrittenMembers : List (JsonText × Json) → Prop
  | [] => True
  | (name, value) :: rest => JsonText.Written name ∧ Written value ∧ WrittenMembers rest

end

mutual

def tokens : Json → List JsonToken
  | .text units => [.text units]
  | .array [] => [.openArray, .closeArray]
  | .array (first :: rest) => .openArray :: tokens first ++ elementTokens rest
  | .object [] => [.openObject, .closeObject]
  | .object ((name, value) :: rest) =>
      .openObject :: .text name :: .colon :: tokens value ++ memberTokens rest
  | value => [.scalar value]

def elementTokens : List Json → List JsonToken
  | [] => [.closeArray]
  | element :: rest => .comma :: tokens element ++ elementTokens rest

def memberTokens : List (JsonText × Json) → List JsonToken
  | [] => [.closeObject]
  | (name, value) :: rest => .comma :: .text name :: .colon :: tokens value ++ memberTokens rest

end

theorem bare_word_number (first : Char) (rest : List Char) (notNull : first ≠ 'n') (notTrue : first ≠ 't')
    (notFalse : first ≠ 'f') : bareWord? (first :: rest) = number? (first :: rest) := by
  simp [bareWord?, notNull, notTrue, notFalse]

theorem split_digits (digits tail : List Char) (all : ∀ char ∈ digits, Decimal.isDigit char = true)
    (stops : ∀ char ∈ tail.head?, Decimal.isDigit char = false) :
    (digits ++ tail).takeWhile Decimal.isDigit = digits ∧ (digits ++ tail).dropWhile Decimal.isDigit = tail := by
  rw [List.takeWhile_append_of_pos all, List.dropWhile_append_of_pos all]
  cases tail with
  | nil => simp
  | cons char tail =>
      have stop := stops char rfl
      simp [stop]

section Numbers

variable (number : Nat) (tail : List Char) (stops : ∀ char ∈ tail.head?, Decimal.isDigit char = false)
include stops

theorem bare_word_minus :
    bareWord? ('-' :: (Decimal.digits number ++ tail)) =
      numberOf? true ('-' :: (Decimal.digits number ++ tail)) (Decimal.digits number) tail := by
  obtain ⟨whole, left⟩ := split_digits _ tail (Decimal.is_digit_of_mem number) stops
  rw [bare_word_number _ _ (by decide) (by decide) (by decide)]
  simp only [number?, whole, left]

theorem bare_word_unsigned :
    bareWord? (Decimal.digits number ++ tail) =
      numberOf? false (Decimal.digits number ++ tail) (Decimal.digits number) tail := by
  have digit := Decimal.is_digit_of_mem number
  obtain ⟨whole, left⟩ := split_digits _ tail digit stops
  cases spelling : Decimal.digits number with
  | nil => exact absurd spelling Nat.toDigits_ne_nil
  | cons first rest =>
      rw [spelling] at whole left digit
      have apart : ∀ other, Decimal.isDigit other = false → first ≠ other := by
        rintro other letter rfl
        rw [digit first List.mem_cons_self] at letter
        cases letter
      rw [List.cons_append] at whole left ⊢
      rw [bare_word_number first _ (apart _ (by decide)) (apart _ (by decide)) (apart _ (by decide))]
      unfold number?
      split
      · rename_i same
        exact absurd (List.cons.inj same).1 (apart _ (by decide))
      · rw [whole, left]

end Numbers

theorem bare_word_negative (number : Nat) :
    bareWord? ('-' :: Decimal.digits (number + 1)) = some (.integer (.negSucc number)) := by
  have alone := bare_word_minus (number + 1) [] (fun _ none => nomatch none)
  rw [List.append_nil] at alone
  rw [alone, numberOf?, Decimal.read_digits]
  rfl

theorem bare_word_natural (number : Nat) :
    bareWord? (Decimal.digits number) = some (.integer (.ofNat number)) := by
  have alone := bare_word_unsigned number [] (fun _ none => nomatch none)
  rw [List.append_nil] at alone
  rw [alone, numberOf?, Decimal.read_digits]
  rfl

theorem bare_word_signed (value : Int) : bareWord? (Decimal.signed value) = some (.integer value) := by
  cases value with
  | ofNat number => exact bare_word_natural number
  | negSucc number => exact bare_word_negative number

end Json

namespace JsonToken

def scanFrom (tokens : List JsonToken) (mode : Mode) (chars : List Char) : Option (List JsonToken) :=
  (chars.foldlM Scanner.step ⟨tokens, mode⟩).bind Scanner.finish?

variable (tokens : List JsonToken) (units : List JsonUnit) (rest : List Char)

theorem scan_from_step (mode after : Mode) (produced : List JsonToken) (char : Char)
    (step : Scanner.step ⟨tokens, mode⟩ char = some ⟨produced, after⟩) :
    scanFrom tokens mode (char :: rest) = scanFrom produced after rest := by
  simp only [scanFrom, List.foldlM_cons, step]
  rfl

section Texts

theorem scan_plain (char : Char) (free : JsonUnit.mustEscape char = false) :
    scanFrom tokens (.text units) (char :: rest) = scanFrom tokens (.text (.plain char :: units)) rest := by
  have allowed := of_decide_eq_false free
  apply scan_from_step
  simp only [Scanner.step]
  rw [if_neg (fun quote => allowed (.inr (.inl quote))), if_neg (fun slash => allowed (.inr (.inr slash))),
    if_neg (fun control => allowed (.inl control))]

theorem scan_escape (char meant : Char) (named : char ≠ 'u') (means : escape? char = some meant) :
    scanFrom tokens (.text units) ('\\' :: char :: rest) = scanFrom tokens (.text (.escaped meant :: units)) rest := by
  rw [scan_from_step tokens _ (.text units) (.escape units) tokens '\\' rfl]
  apply scan_from_step
  simp only [Scanner.step, if_neg named, means, Option.map_some]

theorem ascii_code : ∀ code < 128, (Char.ofNat code).toNat = code := by decide +kernel

theorem hex_digit_value (char : Char) (value : Nat) (small : value < 16) (digit : char.toLower = Nat.digitChar value) :
    hexDigit? char = some value := by
  rcases Hex.ascii_or_wide char with ⟨code, narrow, rfl⟩ | wide
  · rw [hexDigit?, ascii_code code narrow, if_pos narrow]
    exact (Hex.ascii_digit code narrow value small).mpr digit
  · exact absurd digit (Hex.wide_lower char wide value small)

theorem scan_hex_digit (count code value : Nat) (char : Char) (means : hexDigit? char = some value) (more : count ≠ 3) :
    scanFrom tokens (.unicode units count code) (char :: rest) =
      scanFrom tokens (.unicode units (count + 1) (16 * code + value)) rest := by
  apply scan_from_step
  simp only [Scanner.step, means, Option.map_some, if_neg more]

theorem scan_last_hex_digit (code value : Nat) (char : Char) (means : hexDigit? char = some value) :
    scanFrom tokens (.unicode units 3 code) (char :: rest) =
      scanFrom tokens (.text (pushCode (16 * code + value) units)) rest := by
  apply scan_from_step
  simp only [Scanner.step, means, Option.map_some]
  rfl

theorem code_digits (code : Nat) :
    Hex.digits (Bytes.toBigEndian 2 code) = [Nat.digitChar (code / 256 % 256 / 16),
      Nat.digitChar (code / 256 % 256 % 16), Nat.digitChar (code % 256 / 16), Nat.digitChar (code % 256 % 16)] := by
  have byte : ∀ number, (UInt8.ofNat number).toNat = number % 256 := fun _ => UInt8.toNat_ofNat'
  simp [Bytes.toBigEndian, Bytes.toLittleEndian, Hex.digits, Hex.byteDigits, byte]

theorem scan_code (code : Nat) (small : code < 0x10000) (spelling : List Char)
    (spelled : spelling.map Char.toLower = Hex.digits (Bytes.toBigEndian 2 code)) :
    scanFrom tokens (.text units) ('\\' :: 'u' :: spelling ++ rest) =
      scanFrom tokens (.text (pushCode code units)) rest := by
  rw [code_digits] at spelled
  obtain ⟨first, spelling, rfl, firstDigit, spelled⟩ := List.map_eq_cons_iff.mp spelled
  obtain ⟨second, spelling, rfl, secondDigit, spelled⟩ := List.map_eq_cons_iff.mp spelled
  obtain ⟨third, spelling, rfl, thirdDigit, spelled⟩ := List.map_eq_cons_iff.mp spelled
  obtain ⟨fourth, spelling, rfl, fourthDigit, spelled⟩ := List.map_eq_cons_iff.mp spelled
  obtain rfl := List.map_eq_nil_iff.mp spelled
  simp only [List.cons_append, List.nil_append]
  rw [scan_from_step tokens _ (.text units) (.escape units) tokens '\\' rfl,
    scan_from_step tokens _ (.escape units) (.unicode units 0 0) tokens 'u' rfl,
    scan_hex_digit _ _ _ 0 0 _ first (hex_digit_value _ _ (by omega) firstDigit) (by decide),
    scan_hex_digit _ _ _ 1 _ _ second (hex_digit_value _ _ (by omega) secondDigit) (by decide),
    scan_hex_digit _ _ _ 2 _ _ third (hex_digit_value _ _ (by omega) thirdDigit) (by decide),
    scan_last_hex_digit _ _ _ _ _ fourth (hex_digit_value _ _ (by omega) fourthDigit)]
  congr 3
  omega

theorem char_bound (char : Char) : char.toNat < 0x110000 := by
  rcases char.valid with below | ⟨_, below⟩
  · exact Nat.lt_trans below (by decide)
  · exact below

theorem push_scalar (code : Nat) (scalar : code < 0xd800 ∨ 0xe000 ≤ code) :
    pushCode code units = .escaped (Char.ofNat code) :: units := by
  have high : isHighSurrogate code = false := decide_eq_false (by omega)
  have low : isLowSurrogate code = false := decide_eq_false (by omega)
  unfold pushCode
  split
  · simp [high, low]
  · simp [high, low]

end Texts

section Words

def Delimited : List Char → Prop
  | [] => True
  | char :: _ => isWordChar char = false

theorem scan_word_chars (spelling more : List Char) (word : ∀ char ∈ more, isWordChar char = true) :
    scanFrom tokens (.word spelling) (more ++ rest) = scanFrom tokens (.word (more.reverse ++ spelling)) rest := by
  induction more generalizing spelling with
  | nil => rfl
  | cons char more ih =>
      have within := word char List.mem_cons_self
      have later : ∀ other ∈ more, isWordChar other = true :=
        fun other member => word other (List.mem_cons_of_mem _ member)
      have step : Scanner.step ⟨tokens, .word spelling⟩ char = some ⟨tokens, .word (char :: spelling)⟩ := if_pos within
      rw [List.cons_append, scan_from_step tokens _ _ _ tokens char step, ih _ later, List.reverse_cons,
        List.append_assoc]
      rfl

theorem scan_word_end (spelling : List Char) (value : Json) (means : Json.bareWord? spelling.reverse = some value)
    (delimited : Delimited rest) :
    scanFrom tokens (.word spelling) rest = scanFrom (.scalar value :: tokens) .blank rest := by
  have ended : Scanner.endWord tokens spelling = some (.scalar value :: tokens) := by
    rw [Scanner.endWord, means]
    rfl
  cases rest with
  | nil =>
      change (Scanner.endWord tokens spelling).map List.reverse = _
      rw [ended]
      rfl
  | cons char rest =>
      have apart : ¬ isWordChar char = true := by
        rw [show isWordChar char = false from delimited]
        decide
      simp only [scanFrom, List.foldlM_cons, Scanner.step, if_neg apart, ended]
      rfl

theorem scan_word_start (char : Char) (within : isWordChar char = true) :
    scanFrom tokens .blank (char :: rest) = scanFrom tokens (.word [char]) rest := by
  have apart : ∀ other, isWordChar other = false → char ≠ other := by
    rintro other outside rfl
    rw [within] at outside
    cases outside
  have notBlank : ¬ isBlank char = true := by
    have space := apart ' ' (by decide)
    have tab := apart '\t' (by decide)
    have newline := apart '\n' (by decide)
    have carriage := apart '\r' (by decide)
    simp [isBlank, space, tab, newline, carriage]
  apply scan_from_step
  simp only [Scanner.step, Scanner.stepBlank]
  rw [if_neg notBlank, if_neg (apart '"' (by decide)), if_pos within]

theorem scan_word (spelling : List Char) (value : Json) (nonempty : spelling ≠ [])
    (word : ∀ char ∈ spelling, isWordChar char = true) (means : Json.bareWord? spelling = some value)
    (delimited : Delimited rest) :
    scanFrom tokens .blank (spelling ++ rest) = scanFrom (.scalar value :: tokens) .blank rest := by
  cases spelling with
  | nil => exact absurd rfl nonempty
  | cons first more =>
      have later : ∀ char ∈ more, isWordChar char = true := fun char member => word char (List.mem_cons_of_mem _ member)
      rw [List.cons_append, scan_word_start tokens _ first (word first List.mem_cons_self),
        scan_word_chars tokens rest [first] more later]
      apply scan_word_end tokens rest _ _ _ delimited
      rw [List.reverse_append, List.reverse_reverse]
      exact means

theorem digit_word (char : Char) (digit : Decimal.isDigit char = true) : isWordChar char = true := by
  have bounds := of_decide_eq_true digit
  have known : char.isDigit = true := by
    simpa [Char.isDigit, Char.le_def] using bounds
  simp [isWordChar, Char.isAlphanum, known]

theorem digits_word (number : Nat) (char : Char) (member : char ∈ Decimal.digits number) : isWordChar char = true :=
  digit_word char (Decimal.is_digit_of_mem number char member)

theorem signed_word (value : Int) (char : Char) (member : char ∈ Decimal.signed value) : isWordChar char = true := by
  cases value with
  | ofNat number => exact digits_word number char member
  | negSucc number =>
      rcases List.mem_cons.mp member with rfl | digit
      · decide
      · exact digits_word (number + 1) char digit

theorem signed_nonempty (value : Int) : Decimal.signed value ≠ [] := by
  cases value with
  | ofNat number => exact Nat.toDigits_ne_nil
  | negSucc number => exact List.cons_ne_nil _ _

end Words

section Marks

theorem scan_punctuation (char : Char) (token : JsonToken)
    (step : Scanner.stepBlank tokens char = some ⟨token :: tokens, .blank⟩) :
    scanFrom tokens .blank (char :: rest) = scanFrom (token :: tokens) .blank rest :=
  scan_from_step tokens rest .blank .blank (token :: tokens) char step

theorem scan_blank (char : Char) (blank : isBlank char = true) :
    scanFrom tokens .blank (char :: rest) = scanFrom tokens .blank rest := by
  apply scan_from_step
  simp only [Scanner.step, Scanner.stepBlank]
  rw [if_pos blank]

theorem scan_blanks (blanks : List Char) (all : ∀ char ∈ blanks, isBlank char = true) :
    scanFrom tokens .blank blanks = some tokens.reverse := by
  induction blanks with
  | nil => rfl
  | cons char blanks ih =>
      rw [scan_blank _ _ char (all char List.mem_cons_self),
        ih (fun other member => all other (List.mem_cons_of_mem _ member))]

theorem blank_delimits (char : Char) (blank : isBlank char = true) : isWordChar char = false := by
  rcases of_decide_eq_true blank with rfl | rfl | rfl | rfl <;> decide

end Marks

end JsonToken

end ChainRules
