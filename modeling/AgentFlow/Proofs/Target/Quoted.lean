import AgentFlow.Proofs.Target.Spelling
import AgentFlow.Target.Literal
import AgentFlow.Text.Quoted

/-!
# Quoted text in generated text

A text between quotation marks spells a string token, and decoding its contents gives the text back,
unless the text holds a surrogate.  Every character is written in one of three ways: as itself, as a
letter after a backslash, or with four hexadecimal digits.
-/

namespace AgentFlow.Target

open List
open CodePoint (ofNat scalar toChar? encoded quotation toNat)
open Text (ofChars)

/-! ## How characters are written -/

def hexDigits (n : Nat) : List Char :=
  List.replicate (4 - (Nat.toDigits 16 n).length) '0' ++ Nat.toDigits 16 n

/-- The characters that start an escape which is not a single letter. -/
def longEscapes : List Char :=
  ['\n', 'x', 'u', 'U', 'N', '0', '1', '2', '3', '4', '5', '6', '7']

/-- How a character is written between quotation marks. -/
inductive Escape : Char → List Char → Prop
  | itself {c} (plain : c ∉ ['"', '\\', '\n', '\r', '\x00']) : Escape c [c]
  | letter {c e} (known : letterEscape? e = some c) (short : e ∉ longEscapes)
      (unbroken : fitsLine e = true) : Escape c ['\\', e]
  | digits {c : Char} (small : c.toNat < 0x20) : Escape c ('\\' :: 'u' :: hexDigits c.toNat)

theorem hexDigits_spec : ∀ n < 0x20, (hexDigits n).length = 4 ∧
    (∀ c ∈ hexDigits n, c ∉ ['"', '\\', '\n', '\r', '\x00']) ∧
    (ofChars (hexDigits n)).hexValue? = some n ∧
    ofNat n = .scalar (Char.ofNat n) := by
  decide

/-- The characters that a character is written with. -/
def escape (c : Char) : List Char :=
  (scalar c).encoded.filterMap toChar?

theorem filterMap_ofChars (chars : List Char) :
    (ofChars chars).filterMap toChar? = chars := by
  simp [ofChars, filterMap_map, Function.comp_def]

theorem escape_spec (c : Char) :
    (scalar c).encoded = ofChars (escape c) ∧ Escape c (escape c) := by
  have way {chars : List Char} (written : (scalar c).encoded = ofChars chars)
      (escaped : Escape c chars) :
      (scalar c).encoded = ofChars (escape c) ∧ Escape c (escape c) := by
    have same : escape c = chars := by rw [escape, written, filterMap_ofChars]
    exact ⟨same ▸ written, same ▸ escaped⟩
  by_cases special : c ∈ ['"', '\\', '\n', '\r', '\t', '\x08', '\x0c']
  · simp only [mem_cons, not_mem_nil, or_false] at special
    rcases special with rfl | rfl | rfl | rfl | rfl | rfl | rfl
    · exact way rfl (.letter (e := '"') rfl (by decide) (by decide))
    · exact way rfl (.letter (e := '\\') rfl (by decide) (by decide))
    · exact way rfl (.letter (e := 'n') rfl (by decide) (by decide))
    · exact way rfl (.letter (e := 'r') rfl (by decide) (by decide))
    · exact way rfl (.letter (e := 't') rfl (by decide) (by decide))
    · exact way rfl (.letter (e := 'b') rfl (by decide) (by decide))
    · exact way rfl (.letter (e := 'f') rfl (by decide) (by decide))
  · simp only [mem_cons, not_mem_nil, or_false, not_or] at special
    have written : (scalar c).encoded =
        if c.toNat < 0x20 then ofChars ('\\' :: 'u' :: hexDigits c.toNat)
        else ofChars [c] := by
      simp only [encoded, quotation, CodePoint.backslash,
        scalar.injEq, special, or_self, if_false, CodePoint.toNat]
      rfl
    by_cases small : c.toNat < 0x20
    · rw [if_pos small] at written
      exact way written (.digits small)
    · rw [if_neg small] at written
      have visible : c ≠ '\x00' := by
        rintro rfl
        exact small (by decide)
      exact way written (.itself (by simp [special, visible]))

/-! ## Reading the contents back -/

variable {c : Char} {piece rest chars left : List Char}

theorem stringBody_itself (plain : c ∉ ['"', '\\', '\n', '\r', '\x00']) :
    stringBody '"' false (c :: rest) =
      (stringBody '"' false rest).map fun (body, left) => (c :: body, left) := by
  simp only [mem_cons, not_or] at plain
  rw [stringBody.eq_def]
  split
  · next equal => cases equal
  · next equal => exact absurd (List.cons.inj equal).1 plain.2.1
  · next equal =>
      cases equal
      simp [plain]

theorem stringBody_all (plain : ∀ d ∈ chars, d ∉ ['"', '\\', '\n', '\r', '\x00']) :
    stringBody '"' false (chars ++ rest) =
      (stringBody '"' false rest).map fun (body, left) => (chars ++ body, left) := by
  induction chars with
  | nil => simp
  | cons d others ih =>
    obtain ⟨first, tail⟩ := forall_mem_cons.1 plain
    rw [cons_append, stringBody_itself first, ih tail, Option.map_map]
    rfl

theorem stringBody_escape (escaped : Escape c piece) :
    stringBody '"' false (piece ++ rest) =
      (stringBody '"' false rest).map fun (body, left) => (piece ++ body, left) := by
  cases escaped with
  | itself plain => exact stringBody_itself plain
  | letter _ _ _ =>
    rw [cons_append, cons_append, nil_append, stringBody]
    rfl
  | digits small =>
    rw [cons_append, cons_append, stringBody,
      stringBody_all (hexDigits_spec c.toNat small).2.1, Option.map_map]
    rfl

theorem not_octal_of_short {e : Char} (short : e ∉ longEscapes) : ¬('0' ≤ e ∧ e ≤ '7') := by
  intro octal
  have range : 48 ≤ e.toNat ∧ e.toNat ≤ 55 := octal
  have all : ∀ n < 56, 48 ≤ n → Char.ofNat n ∈ longEscapes := by decide
  have member := all e.toNat (by omega) range.1
  rw [Char.ofNat_toNat] at member
  exact short member

theorem decodeText_escape (escaped : Escape c piece) :
    decodeText (piece ++ rest) = (decodeText rest).map (.scalar c :: ·) := by
  cases escaped with
  | itself plain =>
    simp only [mem_cons, not_or] at plain
    rw [singleton_append, decodeText.eq_def]
    split
    · next equal => cases equal
    · next equal => exact absurd (List.cons.inj equal).1 plain.2.1
    · next equal =>
        cases equal
        cases decodeText rest <;> rfl
  | letter known short _ =>
    have octal := not_octal_of_short short
    simp only [longEscapes, mem_cons, not_or] at short
    rw [cons_append, cons_append, nil_append, decodeText.eq_def]
    simp only [short, if_false, octal, known]
    cases decodeText rest <;> rfl
  | digits small =>
    obtain ⟨length, _, value, point⟩ := hexDigits_spec c.toNat small
    have enough : ¬(hexDigits c.toNat ++ rest).length < 4 := by
      rw [length_append]
      omega
    have taken : (hexDigits c.toNat ++ rest).take 4 = hexDigits c.toNat := by
      rw [← length, take_left]
    have dropped : (hexDigits c.toNat ++ rest).drop 4 = rest := by
      rw [← length, drop_left]
    rw [Char.ofNat_toNat] at point
    rw [cons_append, cons_append, decodeText.eq_def]
    simp only [Char.reduceEq, if_false, if_true, hexEscape?, enough, taken, dropped, value, point,
      Option.bind_eq_bind, Option.bind_some]
    cases decodeText rest <;> rfl

/-! ## Whole texts -/

def quotedBody (chars : List Char) : List Char := chars.flatMap escape

theorem encoded_ofChars (chars : List Char) :
    (ofChars chars).flatMap encoded = ofChars (quotedBody chars) := by
  induction chars with
  | nil => rfl
  | cons c others ih =>
    have head := (escape_spec c).1
    simp only [ofChars, quotedBody, map_cons, flatMap_cons, map_append] at ih ⊢
    rw [ih, head]
    rfl

theorem stringBody_quotedBody (chars left : List Char) :
    stringBody '"' false (quotedBody chars ++ '"' :: left) = some (quotedBody chars, left) := by
  induction chars with
  | nil =>
    rw [quotedBody, flatMap_nil, nil_append, stringBody.eq_def]
    rfl
  | cons c others ih =>
    rw [quotedBody, flatMap_cons, append_assoc, stringBody_escape (escape_spec c).2]
    simp only [quotedBody] at ih
    rw [ih]
    rfl

/-- **Decoding what stands between the quotation marks gives the text back.** -/
theorem decodeText_quotedBody (chars : List Char) :
    decodeText (quotedBody chars) = some (ofChars chars) := by
  induction chars with
  | nil => simp [quotedBody, decodeText, ofChars]
  | cons c others ih =>
    rw [quotedBody, flatMap_cons, decodeText_escape (escape_spec c).2]
    simp only [quotedBody] at ih
    rw [ih]
    rfl

theorem fitsLine_of_plain (plain : c ∉ ['"', '\\', '\n', '\r', '\x00']) : fitsLine c = true := by
  simp only [mem_cons, not_or] at plain
  simp [fitsLine, plain]

theorem unbroken_escape (escaped : Escape c piece) : ∀ d ∈ piece, fitsLine d = true := by
  cases escaped with
  | itself plain =>
    exact forall_mem_singleton.2 (fitsLine_of_plain plain)
  | letter _ _ unbroken =>
    simp only [forall_mem_cons]
    exact ⟨by decide, unbroken, nofun⟩
  | digits small =>
    simp only [forall_mem_cons]
    refine ⟨by decide, by decide, fun d member => ?_⟩
    exact fitsLine_of_plain ((hexDigits_spec c.toNat small).2.1 d member)

theorem head_escape (escaped : Escape c piece) : ∃ d others, piece = d :: others ∧ d ≠ '"' := by
  cases escaped with
  | itself plain =>
    simp only [mem_cons, not_or] at plain
    exact ⟨c, [], rfl, plain.1⟩
  | letter _ _ _ | digits _ => exact ⟨_, _, rfl, by decide⟩

/-- The contents of a string are not taken for those of one with three quotation marks. -/
theorem not_triple (closed : closes left = true) (a b : Char) (others : List Char)
    (equal : quotedBody chars ++ '"' :: left = a :: b :: others) : ¬(a = '"' ∧ b = '"') := by
  rintro ⟨rfl, rfl⟩
  cases chars with
  | nil =>
    rcases closes_cases closed with rfl | ⟨d, more, rfl, closer⟩
    · simp [quotedBody] at equal
    · have marks := not_mark_of_closer d closer
      simp only [mem_cons, not_or] at marks
      simp only [quotedBody, flatMap_nil, nil_append, List.cons.injEq] at equal
      exact marks.2.2.2.2.2.2.1 equal.2.1
  | cons d more =>
    obtain ⟨e, rest, starts, differs⟩ := head_escape (escape_spec d).2
    rw [quotedBody, flatMap_cons, starts] at equal
    exact differs (List.cons.inj equal).1

def quotedToken (chars : List Char) : StringToken := ⟨false, false, false, quotedBody chars⟩

theorem readString?_quoted (chars : List Char) (closed : closes left = true) :
    readString? ('"' :: (quotedBody chars ++ '"' :: left)) =
      some (some (quotedToken chars, left)) := by
  have body := stringBody_quotedBody chars left
  have single (a b : Char) (others : List Char) := @not_triple chars left closed a b others
  have start : stringStart? ('"' :: (quotedBody chars ++ '"' :: left)) =
      some (⟨false, false, false, []⟩, '"', quotedBody chars ++ '"' :: left) := rfl
  rw [readString?, start, Option.map_some]
  generalize quotedBody chars ++ '"' :: left = contents at body single
  dsimp only
  split
  · next a b others =>
      rw [if_neg (single a b others rfl), body]
      rfl
  · rw [body]
    rfl

/-- **A text between quotation marks spells a string.** -/
theorem spells_quoted (chars : List Char) :
    Spells ('"' :: (quotedBody chars ++ ['"'])) [.string (quotedToken chars)] := by
  refine .single ?_ rfl (fun _ => rfl) fun left closed => ?_
  · simp only [forall_mem_cons, forall_mem_append]
    refine ⟨by decide, fun d member => ?_, by decide, nofun⟩
    obtain ⟨c, _, inside⟩ := mem_flatMap.1 member
    exact unbroken_escape (escape_spec c).2 d inside
  · rw [cons_append, append_assoc, singleton_append, readToken, readString?_quoted chars closed]
    rfl

/-- **The value of the string is the text.** -/
theorem constant?_quotedToken (chars : List Char) :
    (quotedToken chars).constant? = some (.str (ofChars chars)) := by
  rw [StringToken.constant?]
  simp only [quotedToken, Bool.false_eq_true, if_false, decodeText_quotedBody, Option.map_some]

theorem doubleQuoted_ofChars (chars : List Char) :
    (ofChars chars).doubleQuoted = ofChars ('"' :: (quotedBody chars ++ ['"'])) := by
  rw [Text.doubleQuoted, encoded_ofChars]
  simp [ofChars, quotation]

end AgentFlow.Target
