import ChainRules.Proofs.Json.Parsing
import ChainRules.Proofs.Json.Reordered
import Mathlib

set_option autoImplicit false

/-!
The grammar of JSON texts: which characters spell a value, with blanks wherever they mean nothing and with every way to
escape a character. Each text that spells a value is parsed as that value.
-/

namespace ChainRules

def IsCode (code : Nat) (spelling : List Char) : Prop :=
  code < 0x10000 ∧ spelling.map Char.toLower = Hex.digits (Bytes.toBigEndian 2 code)

namespace JsonUnit

def shortEscapes : List (Char × Char) :=
  [('"', '"'), ('\\', '\\'), ('/', '/'), ('b', Char.ofNat 8), ('f', Char.ofNat 12), ('n', '\n'), ('r', '\r'),
    ('t', '\t')]

inductive Spelled : JsonUnit → List Char → Prop where
  | plain (char : Char) (free : mustEscape char = false) : Spelled (.plain char) [char]
  | short (code meant : Char) (named : (code, meant) ∈ shortEscapes) : Spelled (.escaped meant) ['\\', code]
  | code (char : Char) (spelling : List Char) (digits : IsCode char.toNat spelling) :
      Spelled (.escaped char) ('\\' :: 'u' :: spelling)
  | pair (char : Char) (high low : List Char) (wide : 0x10000 ≤ char.toNat)
      (first : IsCode (0xd800 + (char.toNat - 0x10000) / 0x400) high)
      (second : IsCode (0xdc00 + (char.toNat - 0x10000) % 0x400) low) :
      Spelled (.escaped char) ('\\' :: 'u' :: high ++ '\\' :: 'u' :: low)
  | half (code : Nat) (spelling : List Char) (surrogate : 0xd800 ≤ code ∧ code < 0xe000)
      (digits : IsCode code spelling) : Spelled (.surrogate code) ('\\' :: 'u' :: spelling)

-- The two halves of a surrogate pair: side by side they are one character.
def Completes (earlier later : JsonUnit) : Prop :=
  ∃ high low, earlier = .surrogate high ∧ later = .surrogate low ∧ JsonToken.isHighSurrogate high = true ∧
    JsonToken.isLowSurrogate low = true

end JsonUnit

inductive JsonText.Spelled : JsonText → List Char → Prop where
  | nil : Spelled [] []
  | cons (unit : JsonUnit) (units : JsonText) (chars more : List Char) (first : unit.Spelled chars)
      (apart : ∀ next ∈ units.head?, ¬ unit.Completes next) (rest : Spelled units more) :
      Spelled (unit :: units) (chars ++ more)

-- Only a half of a surrogate pair has to be kept apart from what follows it.
theorem JsonText.Spelled.cons_char (unit : JsonUnit) (units : JsonText) (chars more : List Char)
    (first : unit.Spelled chars) (whole : ∀ code, unit ≠ .surrogate code) (rest : JsonText.Spelled units more) :
    JsonText.Spelled (unit :: units) (chars ++ more) :=
  .cons unit units chars more first (fun _ _ ⟨high, _, half, _⟩ => whole high half) rest

def JsonText.plain (chars : List Char) : JsonText := chars.map JsonUnit.plain

theorem JsonText.string_of_plain (chars : List Char) : string? (plain chars) = some (String.ofList chars) := by
  have each : chars? (plain chars) = some chars := by
    rw [chars?, map_some_iff, plain, List.forall₂_map_left_iff, List.forall₂_same]
    exact fun _ _ => rfl
  rw [string?, each, Option.map_some]

theorem JsonText.spelled_plain (chars : List Char) (free : chars.any JsonUnit.mustEscape = false) :
    (plain chars).Spelled chars := by
  induction chars with
  | nil => exact .nil
  | cons char chars ih =>
      obtain ⟨first, later⟩ := Bool.or_eq_false_iff.mp free
      exact .cons_char _ _ [char] chars (.plain char first) (fun _ same => nomatch same) (ih later)

namespace Json

inductive Fraction : List Char → Prop where
  | point (digits : List Char) (all : isDigits digits = true) : Fraction ('.' :: digits)

inductive Exponent : List Char → Prop where
  | power (letter : Char) (sign digits : List Char) (named : letter = 'e' ∨ letter = 'E')
      (signed : sign = [] ∨ sign = ['+'] ∨ sign = ['-']) (all : isDigits digits = true) :
      Exponent (letter :: (sign ++ digits))

inductive NumberTail : List Char → Prop where
  | fraction (chars : List Char) (fraction : Fraction chars) : NumberTail chars
  | exponent (chars : List Char) (exponent : Exponent chars) : NumberTail chars
  | both (chars more : List Char) (fraction : Fraction chars) (exponent : Exponent more) : NumberTail (chars ++ more)

-- Literals and numbers. Only a whole number other than a negative zero is taken as an integer.
inductive Scalar : Json → List Char → Prop where
  | null : Scalar .null ['n', 'u', 'l', 'l']
  | true : Scalar (.bool true) ['t', 'r', 'u', 'e']
  | false : Scalar (.bool false) ['f', 'a', 'l', 's', 'e']
  | integer (value : Int) : Scalar (.integer value) (Decimal.signed value)
  | negativeZero : Scalar (.real ['-', '0']) ['-', '0']
  | real (sign : List Char) (whole : Nat) (tail : List Char) (signed : sign = [] ∨ sign = ['-'])
      (more : NumberTail tail) :
      Scalar (.real (sign ++ Decimal.digits whole ++ tail)) (sign ++ Decimal.digits whole ++ tail)

-- The parts of a text: a value, what follows an element of an array, a member of an object with all that follows it,
-- the same from the colon on, and what follows a member.
inductive Phrase where
  | value (json : Json)
  | elements (rest : List Json)
  | member (name : JsonText) (value : Json) (rest : List (JsonText × Json))
  | colon (value : Json) (rest : List (JsonText × Json))
  | members (rest : List (JsonText × Json))

def Phrase.tokens : Phrase → List JsonToken
  | .value json => json.tokens
  | .elements rest => elementTokens rest
  | .member name json rest => .text name :: .colon :: json.tokens ++ memberTokens rest
  | .colon json rest => .colon :: json.tokens ++ memberTokens rest
  | .members rest => memberTokens rest

inductive Spelled : Phrase → List Char → Prop where
  | blank (phrase : Phrase) (char : Char) (chars : List Char) (blank : JsonToken.isBlank char = true)
      (spelled : Spelled phrase chars) : Spelled phrase (char :: chars)
  | scalar (json : Json) (chars : List Char) (scalar : json.Scalar chars) : Spelled (.value json) chars
  | text (units : JsonText) (chars : List Char) (text : units.Spelled chars) :
      Spelled (.value (.text units)) ('"' :: chars ++ ['"'])
  | emptyArray (chars : List Char) (spelled : Spelled (.elements []) chars) :
      Spelled (.value (.array [])) ('[' :: chars)
  | array (first : Json) (rest : List Json) (chars more : List Char) (value : Spelled (.value first) chars)
      (spelled : Spelled (.elements rest) more) : Spelled (.value (.array (first :: rest))) ('[' :: chars ++ more)
  | closeArray : Spelled (.elements []) [']']
  | nextElement (element : Json) (rest : List Json) (chars more : List Char) (value : Spelled (.value element) chars)
      (spelled : Spelled (.elements rest) more) : Spelled (.elements (element :: rest)) (',' :: chars ++ more)
  | emptyObject (chars : List Char) (spelled : Spelled (.members []) chars) :
      Spelled (.value (.object [])) ('\x7b' :: chars)
  | object (name : JsonText) (value : Json) (rest : List (JsonText × Json)) (chars : List Char)
      (spelled : Spelled (.member name value rest) chars) :
      Spelled (.value (.object ((name, value) :: rest))) ('\x7b' :: chars)
  | member (name : JsonText) (value : Json) (rest : List (JsonText × Json)) (chars more : List Char)
      (text : name.Spelled chars) (spelled : Spelled (.colon value rest) more) :
      Spelled (.member name value rest) ('"' :: chars ++ '"' :: more)
  | colon (value : Json) (rest : List (JsonText × Json)) (chars more : List Char)
      (spelled : Spelled (.value value) chars) (following : Spelled (.members rest) more) :
      Spelled (.colon value rest) (':' :: chars ++ more)
  | closeObject : Spelled (.members []) ['\x7d']
  | nextMember (name : JsonText) (value : Json) (rest : List (JsonText × Json)) (chars : List Char)
      (spelled : Spelled (.member name value rest) chars) : Spelled (.members ((name, value) :: rest)) (',' :: chars)

def SpelledBy (json : Json) (text : String) : Prop :=
  ∃ chars blanks, Spelled (.value json) chars ∧ (∀ char ∈ blanks, JsonToken.isBlank char = true) ∧
    text.toList = chars ++ blanks

section Numbers

theorem all_digits (digits : List Char) (all : isDigits digits = true) :
    ∀ char ∈ digits, Decimal.isDigit char = true :=
  List.all_eq_true.mp (Bool.and_eq_true_iff.mp all).2

theorem exponent_part (chars : List Char) (exponent : Exponent chars) : isExponentPart chars = true := by
  obtain ⟨letter, sign, digits, named, signed, all⟩ := exponent
  have unsigned : isExponent (sign ++ digits) = true := by
    rcases signed with rfl | rfl | rfl
    · cases digits with
      | nil => cases all
      | cons first digits =>
          have digit := all_digits _ all first List.mem_cons_self
          unfold isExponent
          split
          · rename_i same
            rw [(List.cons.inj same).1] at digit
            cases digit
          · rename_i same
            rw [(List.cons.inj same).1] at digit
            cases digit
          · exact all
    · exact all
    · exact all
  rcases named with rfl | rfl
  · exact unsigned
  · exact unsigned

theorem number_tail_starts (tail : List Char) (more : NumberTail tail) :
    ∃ char rest, tail = char :: rest ∧ Decimal.isDigit char = false := by
  have exponent : ∀ chars, Exponent chars → ∃ char rest, chars = char :: rest ∧ Decimal.isDigit char = false := by
    rintro _ ⟨letter, sign, digits, rfl | rfl, _, _⟩
    · exact ⟨'e', _, rfl, by decide⟩
    · exact ⟨'E', _, rfl, by decide⟩
  cases more with
  | fraction _ fraction =>
      obtain ⟨digits, _⟩ := fraction
      exact ⟨'.', digits, rfl, by decide⟩
  | exponent _ found => exact exponent tail found
  | both _ more fraction _ =>
      obtain ⟨digits, _⟩ := fraction
      exact ⟨'.', digits ++ more, rfl, by decide⟩

theorem point_digits (digits exponent : List Char) (all : isDigits digits = true)
    (part : isExponentPart exponent = true) (stops : ∀ char ∈ exponent.head?, Decimal.isDigit char = false) :
    isNumberTail ('.' :: (digits ++ exponent)) = true := by
  obtain ⟨whole, tail⟩ := split_digits digits exponent (all_digits digits all) stops
  change (isDigits ((digits ++ exponent).takeWhile Decimal.isDigit) &&
    isExponentPart ((digits ++ exponent).dropWhile Decimal.isDigit)) = true
  rw [whole, tail, all, part]
  rfl

theorem number_tail (tail : List Char) (more : NumberTail tail) : isNumberTail tail = true := by
  have stops : ∀ chars, Exponent chars → ∀ char ∈ chars.head?, Decimal.isDigit char = false := by
    intro chars exponent char first
    obtain ⟨start, rest, rfl, letter⟩ := number_tail_starts chars (.exponent chars exponent)
    rw [← Option.some.inj first]
    exact letter
  cases more with
  | fraction _ fraction =>
      obtain ⟨digits, all⟩ := fraction
      have alone := point_digits digits [] all rfl (fun _ none => nomatch none)
      rwa [List.append_nil] at alone
  | exponent _ exponent =>
      have part := exponent_part tail exponent
      obtain ⟨letter, sign, digits, rfl | rfl, _, _⟩ := exponent
      · exact part
      · exact part
  | both _ more fraction exponent =>
      obtain ⟨digits, all⟩ := fraction
      exact point_digits digits more all (exponent_part more exponent) (stops more exponent)

theorem bare_word_real (sign : List Char) (whole : Nat) (tail : List Char) (signed : sign = [] ∨ sign = ['-'])
    (more : NumberTail tail) :
    bareWord? (sign ++ Decimal.digits whole ++ tail) = some (.real (sign ++ Decimal.digits whole ++ tail)) := by
  have accepted := number_tail tail more
  obtain ⟨start, others, rfl, letter⟩ := number_tail_starts tail more
  have stops : ∀ char ∈ (start :: others).head?, Decimal.isDigit char = false :=
    fun char first => Option.some.inj first ▸ letter
  have read := Decimal.read_digits whole
  rcases signed with rfl | rfl
  · rw [List.nil_append, bare_word_unsigned whole _ stops, numberOf?, read]
    simp [accepted]
  · rw [List.singleton_append, List.cons_append, bare_word_minus whole _ stops, numberOf?, read]
    simp [accepted]

end Numbers

end Json

namespace JsonToken

section Words

def WordChars (chars : List Char) : Prop := ∀ char ∈ chars, isWordChar char = true

theorem word_append (chars more : List Char) (first : WordChars chars) (second : WordChars more) :
    WordChars (chars ++ more) := by
  intro char member
  exact (List.mem_append.mp member).elim (first char) (second char)

theorem digits_word_chars (digits : List Char) (all : Json.isDigits digits = true) : WordChars digits :=
  fun char member => digit_word char (Json.all_digits digits all char member)

theorem tail_word_chars (tail : List Char) (more : Json.NumberTail tail) : WordChars tail := by
  have single : ∀ char, isWordChar char = true → WordChars [char] :=
    fun char word other member => List.mem_singleton.mp member ▸ word
  have fraction : ∀ chars, Json.Fraction chars → WordChars chars := by
    rintro _ ⟨digits, all⟩
    exact word_append ['.'] digits (single '.' (by decide)) (digits_word_chars digits all)
  have exponent : ∀ chars, Json.Exponent chars → WordChars chars := by
    rintro _ ⟨letter, sign, digits, named, signed, all⟩
    have first : WordChars [letter] := by
      rcases named with rfl | rfl
      · exact single 'e' (by decide)
      · exact single 'E' (by decide)
    have second : WordChars sign := by
      rcases signed with rfl | rfl | rfl
      · exact fun _ none => nomatch none
      · exact single '+' (by decide)
      · exact single '-' (by decide)
    exact word_append [letter] _ first (word_append sign digits second (digits_word_chars digits all))
  cases more with
  | fraction _ found => exact fraction tail found
  | exponent _ found => exact exponent tail found
  | both chars more first second => exact word_append chars more (fraction chars first) (exponent more second)

theorem scalar_word (json : Json) (chars : List Char) (scalar : json.Scalar chars) :
    chars ≠ [] ∧ WordChars chars ∧ Json.bareWord? chars = some json := by
  cases scalar with
  | null => exact ⟨List.cons_ne_nil _ _, List.all_eq_true.mp rfl, rfl⟩
  | «true» => exact ⟨List.cons_ne_nil _ _, List.all_eq_true.mp rfl, rfl⟩
  | «false» => exact ⟨List.cons_ne_nil _ _, List.all_eq_true.mp rfl, rfl⟩
  | integer value => exact ⟨signed_nonempty value, signed_word value, Json.bare_word_signed value⟩
  | negativeZero => exact ⟨List.cons_ne_nil _ _, List.all_eq_true.mp rfl, rfl⟩
  | real sign whole tail signed more =>
      have nonempty : sign ++ Decimal.digits whole ++ tail ≠ [] := by
        intro none
        exact Nat.toDigits_ne_nil (List.append_eq_nil_iff.mp (List.append_eq_nil_iff.mp none).1).2
      have signWord : WordChars sign := by
        rcases signed with rfl | rfl
        · exact fun _ none => nomatch none
        · exact List.all_eq_true.mp rfl
      exact ⟨nonempty, word_append _ tail (word_append sign _ signWord (digits_word whole)) (tail_word_chars tail more),
        Json.bare_word_real sign whole tail signed more⟩

end Words

variable (tokens : List JsonToken) (rest : List Char)

section Units

variable (taken : List JsonUnit)

theorem push_half (code : Nat) (half : 0xd800 ≤ code ∧ code < 0xe000)
    (apart : ∀ earlier ∈ taken.head?, ¬ earlier.Completes (.surrogate code)) :
    pushCode code taken = .surrogate code :: taken := by
  have either : (isHighSurrogate code || isLowSurrogate code) = true := by
    simp only [isHighSurrogate, isLowSurrogate, Bool.or_eq_true, decide_eq_true_eq]
    omega
  unfold pushCode
  split
  · rename_i high units
    have open_ : (isHighSurrogate high && isLowSurrogate code) = false := by
      apply Bool.eq_false_of_not_eq_true
      intro both
      obtain ⟨highHalf, lowHalf⟩ := Bool.and_eq_true_iff.mp both
      exact apart _ rfl ⟨high, code, rfl, rfl, highHalf, lowHalf⟩
    simp [open_, either]
  · simp [either]

theorem push_pair (high low : Nat) (highHalf : isHighSurrogate high = true) (lowHalf : isLowSurrogate low = true) :
    pushCode low (.surrogate high :: taken) =
      .escaped (Char.ofNat (0x10000 + (high - 0xd800) * 0x400 + (low - 0xdc00))) :: taken := by
  simp [pushCode, highHalf, lowHalf]

theorem short_escape_means : ∀ escape ∈ JsonUnit.shortEscapes, escape.1 ≠ 'u' ∧ escape? escape.1 = some escape.2 := by
  decide

theorem scan_spelled_unit (unit : JsonUnit) (chars : List Char) (spelled : unit.Spelled chars)
    (apart : ∀ earlier ∈ taken.head?, ¬ earlier.Completes unit) :
    scanFrom tokens (.text taken) (chars ++ rest) = scanFrom tokens (.text (unit :: taken)) rest := by
  cases spelled with
  | plain char free => exact scan_plain tokens taken rest char free
  | short code meant named =>
      obtain ⟨apartFromCode, means⟩ := short_escape_means (code, meant) named
      exact scan_escape tokens taken rest code meant apartFromCode means
  | code char spelling digits =>
      obtain ⟨narrow, digits⟩ := digits
      have scalar : char.toNat < 0xd800 ∨ 0xe000 ≤ char.toNat := by
        rcases char.valid with low | ⟨high, _⟩
        · exact .inl low
        · exact .inr high
      rw [scan_code tokens taken rest _ narrow spelling digits, push_scalar taken _ scalar, Char.ofNat_toNat]
  | pair char high low wide first second =>
      have bound := char_bound char
      have highHalf : isHighSurrogate (0xd800 + (char.toNat - 0x10000) / 0x400) = true := decide_eq_true (by omega)
      have lowHalf : isLowSurrogate (0xdc00 + (char.toNat - 0x10000) % 0x400) = true := decide_eq_true (by omega)
      have opens : ∀ earlier ∈ taken.head?,
          ¬ earlier.Completes (.surrogate (0xd800 + (char.toNat - 0x10000) / 0x400)) := by
        rintro earlier _ ⟨_, low, _, same, _, isLow⟩
        obtain rfl := JsonUnit.surrogate.inj same
        have bounds := of_decide_eq_true isLow
        omega
      have joined : 0x10000 + (0xd800 + (char.toNat - 0x10000) / 0x400 - 0xd800) * 0x400 +
          (0xdc00 + (char.toNat - 0x10000) % 0x400 - 0xdc00) = char.toNat := by
        omega
      rw [List.append_assoc, scan_code tokens taken _ _ first.1 high first.2, push_half taken _ (by omega) opens,
        scan_code tokens _ rest _ second.1 low second.2, push_pair taken _ _ highHalf lowHalf, joined, Char.ofNat_toNat]
  | half code spelling surrogate digits =>
      rw [scan_code tokens taken rest code digits.1 spelling digits.2, push_half taken code surrogate apart]

theorem scan_spelled_units (units : JsonText) (chars : List Char) (spelled : units.Spelled chars)
    (apart : ∀ earlier ∈ taken.head?, ∀ next ∈ units.head?, ¬ earlier.Completes next) :
    scanFrom tokens (.text taken) (chars ++ '"' :: rest) =
      scanFrom (.text (taken.reverse ++ units) :: tokens) .blank rest := by
  induction spelled generalizing taken with
  | nil =>
      apply scan_from_step
      simp only [Scanner.step, List.append_nil]
      rfl
  | cons unit units chars more first between _ ih =>
      have later : ∀ earlier ∈ (unit :: taken).head?, ∀ next ∈ units.head?, ¬ earlier.Completes next := by
        intro earlier last
        rw [← Option.some.inj last]
        exact between
      have here : ∀ earlier ∈ taken.head?, ¬ earlier.Completes unit := fun earlier last => apart earlier last unit rfl
      rw [List.append_assoc, scan_spelled_unit tokens _ taken unit chars first here, ih (unit :: taken) later,
        List.reverse_cons, List.append_assoc]
      rfl

theorem scan_spelled_text (units : JsonText) (chars : List Char) (spelled : units.Spelled chars) :
    scanFrom tokens .blank ('"' :: chars ++ '"' :: rest) = scanFrom (.text units :: tokens) .blank rest := by
  rw [List.cons_append, scan_from_step tokens _ .blank (.text []) tokens '"' rfl,
    scan_spelled_units tokens rest [] units chars spelled (fun _ none => nomatch none)]
  rfl

end Units

section Phrases

theorem following_delimited (phrase : Json.Phrase) (chars : List Char) (spelled : Json.Spelled phrase chars)
    (follows : ∀ json, phrase ≠ .value json) : Delimited (chars ++ rest) := by
  cases spelled with
  | blank _ char chars blank spelled => exact blank_delimits char blank
  | scalar json chars scalar => exact absurd rfl (follows json)
  | text units chars text => exact absurd rfl (follows _)
  | emptyArray chars spelled => exact absurd rfl (follows _)
  | array first others chars more value spelled => exact absurd rfl (follows _)
  | closeArray => rfl
  | nextElement element others chars more value spelled => rfl
  | emptyObject chars spelled => exact absurd rfl (follows _)
  | object name value others chars spelled => exact absurd rfl (follows _)
  | member name value others chars more text spelled => rfl
  | colon value others chars more spelled following => rfl
  | closeObject => rfl
  | nextMember name value others chars spelled => rfl

theorem scan_spelled (phrase : Json.Phrase) (chars : List Char) (spelled : Json.Spelled phrase chars)
    (delimited : Delimited rest) :
    scanFrom tokens .blank (chars ++ rest) = scanFrom (phrase.tokens.reverse ++ tokens) .blank rest := by
  induction spelled generalizing tokens rest with
  | blank phrase char chars blank _ ih => rw [List.cons_append, scan_blank _ _ char blank, ih tokens rest delimited]
  | scalar json chars scalar =>
      obtain ⟨nonempty, word, means⟩ := scalar_word json chars scalar
      have single : json.tokens = [.scalar json] := by
        cases scalar <;> rfl
      rw [scan_word tokens rest chars json nonempty word means delimited, Json.Phrase.tokens, single]
      rfl
  | text units chars text =>
      rw [List.append_assoc]
      exact scan_spelled_text tokens rest units chars text
  | emptyArray chars _ ih =>
      rw [List.cons_append, scan_punctuation _ _ '[' .openArray rfl, ih _ _ delimited]
      rfl
  | array first others chars more value spelled ihValue ihRest =>
      have before := following_delimited rest _ more spelled (fun _ same => nomatch same)
      rw [List.append_assoc, List.cons_append, scan_punctuation _ _ '[' .openArray rfl, ihValue _ _ before,
        ihRest _ _ delimited]
      simp [Json.Phrase.tokens, Json.tokens]
  | closeArray => exact scan_punctuation tokens rest ']' .closeArray rfl
  | nextElement element others chars more value spelled ihValue ihRest =>
      have before := following_delimited rest _ more spelled (fun _ same => nomatch same)
      rw [List.append_assoc, List.cons_append, scan_punctuation _ _ ',' .comma rfl, ihValue _ _ before,
        ihRest _ _ delimited]
      simp [Json.Phrase.tokens, Json.elementTokens]
  | emptyObject chars _ ih =>
      rw [List.cons_append, scan_punctuation _ _ '\x7b' .openObject rfl, ih _ _ delimited]
      rfl
  | object name value others chars _ ih =>
      rw [List.cons_append, scan_punctuation _ _ '\x7b' .openObject rfl, ih _ _ delimited]
      simp [Json.Phrase.tokens, Json.tokens]
  | member name value others chars more text _ ih =>
      rw [List.append_assoc]
      change scanFrom tokens .blank ('"' :: chars ++ '"' :: (more ++ rest)) = _
      rw [scan_spelled_text tokens _ name chars text, ih _ _ delimited]
      simp [Json.Phrase.tokens]
  | colon value others chars more _ following ihValue ihRest =>
      have before := following_delimited rest _ more following (fun _ same => nomatch same)
      rw [List.append_assoc, List.cons_append, scan_punctuation _ _ ':' .colon rfl, ihValue _ _ before,
        ihRest _ _ delimited]
      simp [Json.Phrase.tokens]
  | closeObject => exact scan_punctuation tokens rest '\x7d' .closeObject rfl
  | nextMember name value others chars _ ih =>
      rw [List.cons_append, scan_punctuation _ _ ',' .comma rfl, ih _ _ delimited]
      simp [Json.Phrase.tokens, Json.memberTokens]

end Phrases

end JsonToken

namespace Json

theorem parse_spelled (json : Json) (text : String) (spelled : json.SpelledBy text) : parse? text = some json := by
  obtain ⟨chars, blanks, value, all, whole⟩ := spelled
  have delimited : JsonToken.Delimited blanks := by
    cases blanks with
    | nil => trivial
    | cons char blanks => exact JsonToken.blank_delimits char (all char List.mem_cons_self)
  have scanned : JsonToken.scan? text.toList = some json.tokens := by
    change JsonToken.scanFrom [] .blank text.toList = _
    rw [whole, JsonToken.scan_spelled [] blanks (.value json) chars value delimited, JsonToken.scan_blanks _ blanks all,
      List.append_nil, List.reverse_reverse]
    rfl
  rw [parse?, scanned]
  exact json.of_tokens

end Json

end ChainRules
