import ChainRules.Proofs.Bytes.HexNumber
import ChainRules.Proofs.Bytes.HexObstacles
import ChainRules.Proofs.Text.Display
import ChainRules.Proofs.Work.Wide
import ChainRules.Work.Reading
import Mathlib

set_option autoImplicit false

namespace ChainRules.Target

structure IsText (text : String) : Prop where
  even : (Text.utf8 text).length % 2 = 0
  narrow : (Text.utf8 text).length ≤ 64
  digits : ∀ byte ∈ Text.utf8 text, Hex.IsDigitCode byte

inductive Refuses (text : String) : TextFault → Prop where
  | oddLength (odd : (Text.utf8 text).length % 2 = 1) : Refuses text (.notHex .oddLength)
  | badDigit (byte : UInt8) (position : Nat) (even : (Text.utf8 text).length % 2 = 0)
      (first : Hex.FirstBadDigit (Text.utf8 text) byte position) : Refuses text (.notHex (.badDigit byte position))
  | tooWide (even : (Text.utf8 text).length % 2 = 0) (digits : ∀ byte ∈ Text.utf8 text, Hex.IsDigitCode byte)
      (wide : 64 < (Text.utf8 text).length) : Refuses text .tooWide

variable (text : String)

theorem of_hex_undecoded (obstacle : Hex.Obstacle) (found : Hex.decode (Text.utf8 text) = .error obstacle) :
    ofHex text = .error (.notHex obstacle) := by
  rw [ofHex, found]

theorem of_hex_decoded (bytes : List UInt8) (read : Hex.decode (Text.utf8 text) = .ok bytes) :
    (∃ target, bytes.length ≤ 32 ∧ ofHex text = .ok target ∧ target.toNat = Hex.number text) ∨
      32 < bytes.length ∧ ofHex text = .error .tooWide := by
  by_cases narrow : bytes.length ≤ 32
  · refine .inl ⟨⟨BitVec.ofNat 256 (Bytes.bigEndian bytes)⟩, narrow, ?_, ?_⟩
    · simp only [ofHex, read, if_pos narrow]
    · have fits : Bytes.bigEndian bytes < 256 ^ 32 :=
        Nat.lt_of_lt_of_le (Bytes.big_endian_lt bytes) (Nat.pow_le_pow_right (by decide) narrow)
      rw [Hex.number_spelled text bytes ((Hex.decode_text_iff text bytes).mp read)]
      exact (BitVec.toNat_ofNat _ 256).trans (Nat.mod_eq_of_lt fits)
  · refine .inr ⟨Nat.lt_of_not_le narrow, ?_⟩
    simp only [ofHex, read, if_neg narrow]

theorem is_text_iff : IsText text ↔ ∃ bytes, Hex.decode (Text.utf8 text) = .ok bytes ∧ bytes.length ≤ 32 := by
  constructor
  · intro spelled
    obtain ⟨bytes, read⟩ := (Hex.decodes_iff _).mpr ⟨spelled.even, spelled.digits⟩
    have length := Hex.decode_length _ bytes read
    have narrow := spelled.narrow
    exact ⟨bytes, read, by omega⟩
  · rintro ⟨bytes, read, narrow⟩
    obtain ⟨even, digits⟩ := (Hex.decodes_iff _).mp ⟨bytes, read⟩
    have length := Hex.decode_length _ bytes read
    exact ⟨even, by omega, digits⟩

theorem of_hex_accepts_iff : (∃ target, ofHex text = .ok target) ↔ IsText text := by
  rw [is_text_iff]
  cases read : Hex.decode (Text.utf8 text) with
  | error obstacle =>
      rw [of_hex_undecoded text obstacle read]
      simp
  | ok bytes =>
      rcases of_hex_decoded text bytes read with ⟨target, narrow, accepted, _⟩ | ⟨wide, refused⟩
      · exact iff_of_true ⟨target, accepted⟩ ⟨bytes, rfl, narrow⟩
      · rw [refused]
        refine iff_of_false (fun ⟨_, accepted⟩ => nomatch accepted) (fun ⟨_, same, narrow⟩ => ?_)
        obtain rfl := Except.ok.inj same
        omega

theorem of_hex_number (target : Target) (accepted : ofHex text = .ok target) : target.toNat = Hex.number text := by
  obtain ⟨bytes, read, narrow⟩ := (is_text_iff text).mp ((of_hex_accepts_iff text).mp ⟨target, accepted⟩)
  rcases of_hex_decoded text bytes read with ⟨found, _, same, value⟩ | ⟨wide, _⟩
  · rw [Except.ok.inj (accepted.symm.trans same), value]
  · omega

theorem of_hex_refuses_iff (fault : TextFault) : ofHex text = .error fault ↔ Refuses text fault := by
  constructor
  · intro refused
    cases read : Hex.decode (Text.utf8 text) with
    | error obstacle =>
        obtain rfl := Except.error.inj (refused.symm.trans (of_hex_undecoded text obstacle read))
        cases obstacle with
        | oddLength => exact .oddLength ((Hex.decode_odd_iff _).mp read)
        | badDigit byte position =>
            obtain ⟨even, first⟩ := (Hex.decode_bad_digit_iff _ byte position).mp read
            exact .badDigit byte position even first
    | ok bytes =>
        rcases of_hex_decoded text bytes read with ⟨target, _, accepted, _⟩ | ⟨wide, tooWide⟩
        · rw [accepted] at refused
          cases refused
        · obtain rfl := Except.error.inj (refused.symm.trans tooWide)
          obtain ⟨even, digits⟩ := (Hex.decodes_iff _).mp ⟨bytes, read⟩
          have length := Hex.decode_length _ bytes read
          exact .tooWide even digits (by omega)
  · intro cause
    cases cause with
    | oddLength odd => exact of_hex_undecoded text _ ((Hex.decode_odd_iff _).mpr odd)
    | badDigit byte position even first =>
        exact of_hex_undecoded text _ ((Hex.decode_bad_digit_iff _ byte position).mpr ⟨even, first⟩)
    | tooWide even digits wide =>
        obtain ⟨bytes, read⟩ := (Hex.decodes_iff _).mpr ⟨even, digits⟩
        have length := Hex.decode_length _ bytes read
        rcases of_hex_decoded text bytes read with ⟨_, narrow, _⟩ | ⟨_, refused⟩
        · omega
        · exact refused

-- The bad digit is reported, although the text is too wide as well.
example : ofHex (String.ofList (List.replicate 65 '0' ++ ['g'])) = .error (.notHex (.badDigit 0x67 65)) := by
  decide +kernel

theorem parse_eq_ok_iff (target : Target) : parse text = .ok target ↔ ofHex text = .ok target := by
  unfold parse
  cases ofHex text with
  | error fault => simp [Except.mapError]
  | ok found => simp [Except.mapError]

theorem parse_error_iff (error : ConsensusError) :
    parse text = .error error ↔ ∃ fault, Refuses text fault ∧ error = .config (.badTarget text fault) := by
  simp only [← of_hex_refuses_iff]
  unfold parse
  cases ofHex text with
  | error fault => simp [Except.mapError, eq_comm]
  | ok found => simp [Except.mapError]

theorem spelled_of_text (spelled : IsText text) : ∃ bytes, text.toLower = Hex.encode bytes := by
  obtain ⟨bytes, read, _⟩ := (is_text_iff text).mp spelled
  exact ⟨bytes, (Hex.decode_text_iff text bytes).mp read⟩

theorem same_target_iff (a b : String) (first second : Target) (firstRead : ofHex a = .ok first)
    (secondRead : ofHex b = .ok second) : first = second ↔ Hex.significant a = Hex.significant b := by
  obtain ⟨bytesA, spelledA⟩ := spelled_of_text a ((of_hex_accepts_iff a).mp ⟨first, firstRead⟩)
  obtain ⟨bytesB, spelledB⟩ := spelled_of_text b ((of_hex_accepts_iff b).mp ⟨second, secondRead⟩)
  rw [← Hex.same_number_iff a b bytesA bytesB spelledA spelledB, ← of_hex_number a first firstRead,
    ← of_hex_number b second secondRead]
  exact ⟨congrArg toNat, eq_of_to_nat_eq first second⟩

theorem text_grammar :
    (∀ text, ((∃ target, parse text = .ok target) ↔ IsText text) ∧
      (∀ target, parse text = .ok target → target.toNat = Hex.number text) ∧
      ∀ error, parse text = .error error ↔ ∃ fault, Refuses text fault ∧ error = .config (.badTarget text fault)) ∧
    (∀ target : Target, parse target.display = .ok target ∧ target.display.length = 64 ∧
      ∀ char ∈ target.display.toList, char ∈ Hex.alphabet) ∧
    ∀ a b first second, parse a = .ok first → parse b = .ok second →
      (first = second ↔ Hex.significant a = Hex.significant b) := by
  simp only [parse_eq_ok_iff]
  refine ⟨fun text => ⟨of_hex_accepts_iff text, of_hex_number text, parse_error_iff text⟩, fun target => ?_,
    same_target_iff⟩
  exact ⟨target.of_hex_display, target.length_display, Hex.encode_chars target.toBytes⟩

theorem text_grammar_either_case :
    parse "0FfE" = .ok ⟨0xffe⟩ ∧ parse "000ffe" = .ok ⟨0xffe⟩ ∧
      Hex.significant "0FfE" = Hex.significant "000ffe" ∧ (⟨0xffe⟩ : Target).toNat = Hex.number "0FfE" := by
  have upper : parse "0FfE" = .ok ⟨0xffe⟩ := by decide +kernel
  have lower : parse "000ffe" = .ok ⟨0xffe⟩ := by decide +kernel
  obtain ⟨each, _, same⟩ := text_grammar
  obtain ⟨_, value, _⟩ := each "0FfE"
  exact ⟨upper, lower, (same _ _ _ _ upper lower).mp rfl, value _ upper⟩

end ChainRules.Target
