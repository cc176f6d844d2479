import Lexicon.Proofs.Conformance.Manifest
import Lexicon.Proofs.Json.RoundTrip

namespace Lexicon.Conformance

open Json (Value Reading Printable)
open Fallible

def IsExitCode (v : Value) (n : Int) : Prop :=
  v = .integer n ∧ -0x80000000 ≤ n ∧ n < 0x80000000

/-- What the reading of a value as an expectation has to come to. -/
structure ReadAsExit (v : Value) (result : Except Json.Fault ExitExpectation) : Prop where
  code : ∀ c : Int32, result = .ok (.code c) ↔ IsExitCode v c.toInt
  zero : result = .ok .zero ↔ Named "zero" v
  nonZero : result = .ok .nonZero ↔ Named "non-zero" v
  refused : (∃ fault, result = .error fault) ↔
    ¬((∃ n, IsExitCode v n) ∨ Named "zero" v ∨ Named "non-zero" v)

namespace ExitExpectation

theorem ofWord?_eq_some_iff (word : String) (e : ExitExpectation) :
    ofWord? word = some e ↔ (word = "zero" ∧ e = .zero) ∨ (word = "non-zero" ∧ e = .nonZero) := by
  change (if word = "zero" then some ExitExpectation.zero
    else if word = "non-zero" then some .nonZero else none) = some e ↔ _
  split_ifs with hzero hnonZero
  · subst hzero
    simp [eq_comm]
  · subst hnonZero
    simp [eq_comm]
  · simp [hzero, hnonZero]

/-- The values that stand for an expectation have one of its forms. -/
theorem ofValue?_eq_some_iff (v : Value) (e : ExitExpectation) :
    ofValue? v = some e ↔ ExitForm v e := by
  constructor
  · intro h
    unfold ofValue? at h
    split at h
    · next n =>
      split at h
      · next hrange =>
        obtain rfl := Option.some.inj h
        exact .code hrange.1 hrange.2
      · exact nomatch h
    · next word =>
      rcases (ofWord?_eq_some_iff word e).mp h with ⟨rfl, rfl⟩ | ⟨rfl, rfl⟩
      · exact .zero (.inl rfl)
      · exact .nonZero (.inl rfl)
    · next word =>
      rcases (ofWord?_eq_some_iff word e).mp h with ⟨rfl, rfl⟩ | ⟨rfl, rfl⟩
      · exact .zero (.inr rfl)
      · exact .nonZero (.inr rfl)
    · exact nomatch h
  · exact ExitForm.ofValue?_eq

theorem exitForm_code_iff (v : Value) (c : Int32) :
    ExitForm v (.code c) ↔ IsExitCode v c.toInt := by
  constructor
  · intro h
    cases h with
    | @code n hleast hmost =>
      rw [Int32.toInt_ofInt_of_le hleast hmost]
      exact ⟨rfl, hleast, hmost⟩
  · rintro ⟨rfl, hleast, hmost⟩
    have hform := ExitForm.code hleast hmost
    rwa [Int32.ofInt_toInt] at hform

/-- Whoever reads exactly the forms of expectations refuses everything else. -/
theorem readAsExit_of_forms {v : Value} {result : Except Json.Fault ExitExpectation}
    (h : ∀ e, result = .ok e ↔ ExitForm v e) : ReadAsExit v result where
  code c := (h _).trans (exitForm_code_iff v c)
  zero := (h _).trans ⟨fun form => by cases form; assumption, .zero⟩
  nonZero := (h _).trans ⟨fun form => by cases form; assumption, .nonZero⟩
  refused := by
    -- to refuse is to read no form at all
    have hnone : (∃ fault, result = .error fault) ↔ ∀ e, ¬ExitForm v e := by
      simp only [← h]
      cases result with
      | error fault => exact iff_of_true ⟨fault, rfl⟩ nofun
      | ok e => exact iff_of_false nofun fun h => h e rfl
    rw [hnone]
    constructor
    · rintro hform (⟨n, rfl, hleast, hmost⟩ | hword | hword)
      · exact hform _ (.code hleast hmost)
      · exact hform _ (.zero hword)
      · exact hform _ (.nonZero hword)
    · intro hother e hform
      cases hform with
      | @code n hleast hmost => exact hother (.inl ⟨n, rfl, hleast, hmost⟩)
      | zero hword => exact hother (.inr (.inl hword))
      | nonZero hword => exact hother (.inr (.inr hword))

theorem decoder_eq_ok_iff {r : Reading} {v : Value} (hv : r.value = .ok v) (e : ExitExpectation) :
    decoder r = .ok e ↔ ExitForm v e := by
  rw [← ofValue?_eq_some_iff, decoder, bind_eq_ok_iff]
  constructor
  · rintro ⟨v', hv', h⟩
    obtain rfl := Except.ok.inj (hv.symm.trans hv')
    cases hvalue : ofValue? v with
    | none =>
      rw [hvalue] at h
      exact nomatch h
    | some e' =>
      rw [hvalue] at h
      exact congrArg some (Except.ok.inj h)
  · intro h
    refine ⟨v, hv, ?_⟩
    rw [h]

/-- A whole text is read as the expectation that its value stands for. -/
theorem decode_eq_ok_iff {text : String} {v : Value} (h : Json.decode Reading.value text = .ok v)
    (e : ExitExpectation) : Json.decode decoder text = .ok e ↔ ExitForm v e := by
  obtain ⟨v', hvalue, hend⟩ := bind_eq_ok_iff.mp h
  obtain ⟨htrailing, rfl⟩ := Json.barring_eq_ok_iff.mp hend
  rw [← decoder_eq_ok_iff hvalue, Json.decode, bind_eq_ok_iff]
  simp only [Json.barring_eq_ok_iff, htrailing, true_and, exists_eq_right]

/-! ### Texts of expectations -/

theorem decode_print_self {v : Value} (h : Printable 127 v) :
    Json.decode Reading.value v.print = .ok v := by
  have hread : Json.decode Reading.value (v.print ++ "") = .ok v := Json.decode_print h nofun
  rwa [String.append_empty] at hread

theorem decode_integer {n : Int} (hleast : -0x8000000000000000 ≤ n)
    (hmost : n < 0x10000000000000000) :
    Json.decode Reading.value (toString n) = .ok (.integer n) := by
  have hprint : (Value.integer n).print = toString n := String.empty_append
  rw [← hprint]
  exact decode_print_self (.integer hleast hmost)

def value : ExitExpectation → Value
  | .code c => .integer c.toInt
  | e => .text e.text

/-- An expectation as JSON: a number, or a word in quotes. -/
def spelling : ExitExpectation → String
  | .code c => (code c).text
  | e => "\"" ++ e.text ++ "\""

theorem print_value (e : ExitExpectation) : e.value.print = e.spelling := by
  cases e with
  | zero => decide
  | nonZero => decide
  | code c => exact String.empty_append

/-- Every expectation is read back from its own text. -/
theorem decode_spelling (e : ExitExpectation) : Json.decode decoder e.spelling = .ok e := by
  have hprintable : Printable 127 e.value := by
    cases e with
    | zero => exact .text _
    | nonZero => exact .text _
    | code c =>
      have hleast := c.le_toInt
      have hmost := c.toInt_lt
      exact .integer (by omega) (by omega)
  have hread := decode_print_self hprintable
  rw [print_value] at hread
  rw [decode_eq_ok_iff hread]
  cases e with
  | zero => exact .zero (.inl rfl)
  | nonZero => exact .nonZero (.inl rfl)
  | code c => exact (exitForm_code_iff _ c).mpr ⟨rfl, c.le_toInt, c.toInt_lt⟩

/-- Wherever a value is read as an expectation, by itself or inside a document, it is read as the
one it names or refused. Texts of expectations name themselves, a number only its own exit code, and
the two words opposites. -/
theorem reads_exactly :
    (∀ (r : Reading) (v : Value), r.value = .ok v → ReadAsExit v (decoder r)) ∧
    (∀ (text : String) (v : Value), Json.decode Reading.value text = .ok v →
      ReadAsExit v (Json.decode decoder text)) ∧
    (∀ c : Int32, ∃ e, Json.decode decoder (toString c.toInt) = .ok e ∧
      ∀ status, e.accepts status = true ↔ status = some c) ∧
    (∀ e : ExitExpectation, Json.decode decoder e.spelling = .ok e) ∧
    ∀ status, nonZero.accepts status = !zero.accepts status := by
  refine ⟨fun r v hv => readAsExit_of_forms (decoder_eq_ok_iff hv),
    fun text v hv => readAsExit_of_forms (decode_eq_ok_iff hv), fun c => ?_, decode_spelling,
    accepts_nonZero⟩
  exact ⟨.code c, decode_spelling (.code c), fun status => beq_iff_eq⟩

/-- The least exit code is read, one more than the greatest is refused, and so is a word with a
capital. -/
theorem reads_exactly_limits :
    Json.decode decoder "-2147483648" = .ok (.code (-2147483648)) ∧
    (∃ fault, Json.decode decoder "2147483648" = .error fault) ∧
    ∀ token, ∃ fault, decoder (.leaf (.text "Zero") token) = .error fault := by
  have hleast := decode_integer (n := -0x80000000) (by decide) (by decide)
  have hbeyond := decode_integer (n := 0x80000000) (by decide) (by decide)
  have hleastText : toString (-0x80000000 : Int) = "-2147483648" := by decide
  have hbeyondText : toString (0x80000000 : Int) = "2147483648" := by decide
  rw [hleastText] at hleast
  rw [hbeyondText] at hbeyond
  refine ⟨?_, ?_, fun token => ?_⟩
  · exact ((reads_exactly.2.1 _ _ hleast).code (-2147483648)).mpr ⟨rfl, by decide, by decide⟩
  · refine (reads_exactly.2.1 _ _ hbeyond).refused.mpr ?_
    rintro (⟨n, hn, -, hmost⟩ | hword | hword)
    · cases hn
      exact absurd hmost (by decide)
    · rcases hword with h | h <;> exact nomatch h
    · rcases hword with h | h <;> exact nomatch h
  · refine (reads_exactly.1 (.leaf (.text "Zero") token) _ rfl).refused.mpr ?_
    rintro (⟨n, hn, -⟩ | hword | hword)
    · exact nomatch hn
    · rcases hword with h | h <;> simp at h
    · rcases hword with h | h <;> simp at h

end ExitExpectation

end Lexicon.Conformance
