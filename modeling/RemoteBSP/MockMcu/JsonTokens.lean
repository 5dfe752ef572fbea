import Mathlib.Data.List.TakeWhile
import RemoteBSP.MockMcu.JsonGrammar

/-!
# The tokens of the JSON parser

What the parser does below the values: the blanks, the literals, the strings and the integers. Each
function that returns stands for a statement about the text between two cursors (`Between`), and the
text is the one that the grammar has for the token: `parseString_eq_ok_iff` and the two directions
of `parseInteger`, whose text ends where the digits do.
-/

namespace RemoteBSP.MockMcu.Json

/-- The text stands between two cursors. -/
structure Between (cursor : Cursor) (text : List UInt8) (behind : Cursor) : Prop where
  /-- The input from the first one on begins with it. -/
  rest : cursor.rest = text ++ behind.rest
  /-- The second one is its length further on. -/
  position : behind.position = cursor.position + text.length

/-- There is nothing between a cursor and itself. -/
theorem Between.refl (cursor : Cursor) : Between cursor [] cursor := ⟨rfl, rfl⟩

/-- Two texts in a row are one. -/
theorem Between.trans {first second third : Cursor} {text more : List UInt8}
    (h : Between first text second) (hmore : Between second more third) :
    Between first (text ++ more) third := by
  constructor
  · rw [h.rest, hmore.rest, List.append_assoc]
  · rw [hmore.position, h.position, List.length_append, Nat.add_assoc]

/-- A cursor stands between the two parts of a text. -/
theorem Between.split {first third : Cursor} {text more : List UInt8}
    (h : Between first (text ++ more) third) :
    ∃ second, Between first text second ∧ Between second more third := by
  refine ⟨⟨first.position + text.length, more ++ third.rest⟩, ⟨?_, rfl⟩, rfl, ?_⟩
  · rw [h.rest, List.append_assoc]
  · rw [h.position, List.length_append, Nat.add_assoc]

/-- A byte in front of a text. -/
theorem Between.cons {first second third : Cursor} {byte : UInt8} {text : List UInt8}
    (hbyte : Between first [byte] second) (h : Between second text third) :
    Between first (byte :: text) third :=
  hbyte.trans h

/-- A cursor stands between the first byte of a text and the others. -/
theorem Between.uncons {first third : Cursor} {byte : UInt8} {text : List UInt8}
    (h : Between first (byte :: text) third) :
    ∃ second, Between first [byte] second ∧ Between second text third :=
  Between.split (h : Between first ([byte] ++ text) third)

/-- The text determines the second cursor. -/
theorem Between.unique {cursor behind other : Cursor} {text : List UInt8}
    (h : Between cursor text behind) (hother : Between cursor text other) : behind = other := by
  have hrest : behind.rest = other.rest :=
    List.append_cancel_left (h.rest.symm.trans hother.rest)
  have hposition := h.position.trans hother.position.symm
  cases behind
  cases other
  simp only at hrest hposition
  rw [hrest, hposition]

/-- A cursor moves over the bytes at it. -/
theorem between_advance {cursor : Cursor} {count : ℕ} (h : count ≤ cursor.rest.length) :
    Between cursor (cursor.rest.take count) (cursor.advance count) := by
  constructor
  · exact (List.take_append_drop count cursor.rest).symm
  · rw [List.length_take, Nat.min_eq_left h]
    rfl

/-- A cursor moves over the text at it. -/
theorem Between.advance {cursor behind : Cursor} {text : List UInt8}
    (h : Between cursor text behind) : cursor.advance text.length = behind := by
  have hlength : text.length ≤ cursor.rest.length := by rw [h.rest]; simp
  have hadvance := between_advance hlength
  rw [h.rest, List.take_left] at hadvance
  exact hadvance.unique h

/-- The bytes of a kind up to the first one of another kind. -/
theorem takeWhile_between {kind : UInt8 → Bool} {cursor behind : Cursor} {text : List UInt8}
    (hkind : ∀ byte ∈ text, kind byte) (h : Between cursor text behind)
    (hend : ∀ byte ∈ behind.rest.head?, ¬ kind byte) : cursor.rest.takeWhile kind = text := by
  rw [h.rest, List.takeWhile_append_of_pos hkind]
  cases hrest : behind.rest with
  | nil => simp
  | cons byte rest =>
    have hbyte := hend byte (by rw [hrest]; rfl)
    simp [hbyte]

/-- The bytes of a kind are between two cursors. -/
theorem between_takeWhile (kind : UInt8 → Bool) (cursor : Cursor) :
    Between cursor (cursor.rest.takeWhile kind)
      (cursor.advance (cursor.rest.takeWhile kind).length) := by
  have hfront := List.takeWhile_prefix (l := cursor.rest) kind
  have hbetween := between_advance hfront.length_le
  rwa [← List.prefix_iff_eq_take.1 hfront] at hbetween

/-! ## Blanks -/

/-- Behind the blanks that `skip_space` skips is the rest. -/
theorem rest_skipSpace (cursor : Cursor) :
    cursor.skipSpace.rest = cursor.rest.dropWhile isSpace := by
  have hfront := List.prefix_iff_eq_append.1 (List.takeWhile_prefix (l := cursor.rest) isSpace)
  exact List.append_cancel_left (hfront.trans List.takeWhile_append_dropWhile.symm)

/-- What `skip_space` skips is blank. -/
theorem between_skipSpace (cursor : Cursor) :
    ∃ blank, Blank isSpace blank ∧ Between cursor blank cursor.skipSpace :=
  ⟨_, fun _ hbyte => List.mem_takeWhile_imp hbyte, between_takeWhile isSpace cursor⟩

/-- No blank is at the cursor. -/
def AtToken (cursor : Cursor) : Prop := ∀ byte ∈ cursor.rest.head?, ¬ isSpace byte

/-- `skip_space` goes on to the next token. -/
theorem skipSpace_eq {cursor behind : Cursor} {blank : List UInt8} (hblank : Blank isSpace blank)
    (h : Between cursor blank behind) (htoken : AtToken behind) : cursor.skipSpace = behind := by
  unfold Cursor.skipSpace
  rw [takeWhile_between hblank h htoken]
  exact h.advance

/-- `skip_space` stops only at a token or at the end. -/
theorem atToken_skipSpace (cursor : Cursor) : AtToken cursor.skipSpace := by
  intro byte hbyte hspace
  rw [rest_skipSpace] at hbyte
  have hhead := List.head?_dropWhile_not isSpace cursor.rest
  rw [Option.mem_def.1 hbyte] at hhead
  simp [hspace] at hhead

/-- At a token `skip_space` does nothing. -/
theorem skipSpace_of_atToken {cursor : Cursor} (h : AtToken cursor) : cursor.skipSpace = cursor :=
  skipSpace_eq (fun _ hbyte => absurd hbyte List.not_mem_nil) (Between.refl cursor) h

/-- A second `skip_space` finds nothing to skip. -/
theorem skipSpace_skipSpace (cursor : Cursor) : cursor.skipSpace.skipSpace = cursor.skipSpace :=
  skipSpace_of_atToken (atToken_skipSpace cursor)

/-! ## Single bytes and literals -/

/-- `consume` takes exactly the byte it expects. -/
theorem consume_eq_some_iff {cursor behind : Cursor} {expected : UInt8} :
    cursor.consume expected = some behind ↔ Between cursor [expected] behind := by
  unfold Cursor.consume
  constructor
  · intro h
    split_ifs at h with hhead
    rw [← Option.some.inj h]
    obtain ⟨rest, hrest⟩ := List.head?_eq_some_iff.1 hhead
    refine ⟨?_, rfl⟩
    rw [Cursor.advance, hrest]
    rfl
  · intro h
    rw [if_pos (by rw [h.rest]; rfl)]
    exact congrArg some h.advance

/-- `consume` of a byte that is not there. -/
theorem consume_eq_none {cursor : Cursor} {expected byte : UInt8} {rest : List UInt8}
    (hrest : cursor.rest = byte :: rest) (hne : byte ≠ expected) :
    cursor.consume expected = none := by
  unfold Cursor.consume
  rw [if_neg]
  rw [hrest]
  simpa using hne

/-- `expect_literal` takes exactly the bytes it expects. -/
theorem expectLiteral_eq_ok_iff {literal : List UInt8} {cursor behind : Cursor} :
    expectLiteral literal cursor = .ok behind ↔ Between cursor literal behind := by
  unfold expectLiteral
  constructor
  · intro h
    split_ifs at h with htake
    · exact nomatch h
    · rw [not_not] at htake
      have hlength : literal.length ≤ cursor.rest.length := by
        rw [← htake, List.length_take]
        exact Nat.min_le_right _ _
      have hbetween := between_advance hlength
      rw [htake] at hbetween
      rwa [← Except.ok.inj h]
  · intro h
    rw [if_neg]
    · exact congrArg Except.ok h.advance
    · rw [h.rest, List.take_left, not_not]

/-! ## Escapes -/

/-- Whether a byte is a hexadecimal digit can be decided. -/
instance (digit : UInt8) (value : ℕ) : Decidable (HexDigit digit value) :=
  inferInstanceAs (Decidable (_ ∨ _))

/-- A hexadecimal digit is below 16. -/
theorem HexDigit.lt {digit : UInt8} {value : ℕ} (h : HexDigit digit value) : value < 16 := by
  rcases h with h | h <;> exact (List.getElem?_eq_some_iff.1 h).1

/-- A digit in `parse_hex4` is exact. -/
theorem hexDigit_eq_some_iff {digit : UInt8} {value : UInt32} :
    hexDigit digit = some value ↔ HexDigit digit value.toNat := by
  constructor
  · intro h
    have hall := forall_byte (P := fun digit => (hexDigit digit).all fun value =>
      decide (HexDigit digit value.toNat)) (by decide +kernel) digit
    exact of_decide_eq_true ((Option.all_eq_true _ _).1 hall value h)
  · intro h
    have hall : ∀ n < 16, (smallDigits[n]?.all fun digit => hexDigit digit = some (.ofNat n)) ∧
        capitalDigits[n]?.all fun digit => hexDigit digit = some (.ofNat n) := by decide +kernel
    obtain ⟨hsmall, hcapital⟩ := hall value.toNat h.lt
    rw [UInt32.ofNat_toNat] at hsmall hcapital
    rcases h with h | h
    · exact of_decide_eq_true ((Option.all_eq_true _ _).1 hsmall digit h)
    · exact of_decide_eq_true ((Option.all_eq_true _ _).1 hcapital digit h)

/-- One more digit in `parse_hex4` goes in behind the others. -/
theorem toNat_hexStep {value digit : UInt32} (hvalue : value.toNat < 2^28)
    (hdigit : digit.toNat < 16) :
    ((value <<< 4) ||| digit).toNat = 16 * value.toNat + digit.toNat := by
  have hor := Nat.shiftLeft_add_eq_or_of_lt (i := 4) hdigit value.toNat
  rw [UInt32.toNat_or, UInt32.toNat_shiftLeft]
  have hfour : (4 : UInt32).toNat % 32 = 4 := rfl
  rw [hfour, Nat.mod_eq_of_lt (by rw [Nat.shiftLeft_eq]; omega), ← hor, Nat.shiftLeft_eq]
  omega

/-- The loop of `parse_hex4` takes one digit. -/
theorem hexLoop_cons_eq_ok_iff {position : ℕ} {value result : UInt32} {digit : UInt8}
    {digits : List UInt8} :
    hexLoop position value (digit :: digits) = .ok result ↔
      ∃ next, HexDigit digit next.toNat ∧
        hexLoop (position + 1) ((value <<< 4) ||| next) digits = .ok result := by
  rw [hexLoop]
  constructor
  · intro h
    cases hdigit : hexDigit digit with
    | none => simp [hdigit] at h
    | some next =>
      rw [hdigit] at h
      exact ⟨next, hexDigit_eq_some_iff.1 hdigit, h⟩
  · rintro ⟨next, hnext, h⟩
    rw [hexDigit_eq_some_iff.2 hnext]
    exact h

/-- `parse_hex4` reads exactly four hexadecimal digits. -/
theorem hexLoop_eq_ok_iff {position : ℕ} {a b c d : UInt8} {codepoint : UInt32} :
    hexLoop position 0 [a, b, c, d] = .ok codepoint ↔
      ∃ i j k l, HexDigit a i ∧ HexDigit b j ∧ HexDigit c k ∧ HexDigit d l ∧
        codepoint.toNat = 4096 * i + 256 * j + 16 * k + l := by
  -- What the four digits make.
  have hvalue {i j k l : UInt32} (hi : i.toNat < 16) (hj : j.toNat < 16) (hk : k.toNat < 16)
      (hl : l.toNat < 16) :
      ((((((((0 : UInt32) <<< 4) ||| i) <<< 4) ||| j) <<< 4) ||| k) <<< 4 ||| l).toNat =
        4096 * i.toNat + 256 * j.toNat + 16 * k.toNat + l.toNat := by
    have hzero : (0 : UInt32).toNat < 2^28 := by decide
    have hone := toNat_hexStep hzero hi
    have htwo := toNat_hexStep (by rw [hone]; simp; omega) hj
    have hthree := toNat_hexStep (by rw [htwo, hone]; simp; omega) hk
    rw [toNat_hexStep (by rw [hthree, htwo, hone]; simp; omega) hl, hthree, htwo, hone]
    simp only [UInt32.toNat_zero]
    omega
  constructor
  · intro h
    obtain ⟨i, ha, h⟩ := hexLoop_cons_eq_ok_iff.1 h
    obtain ⟨j, hb, h⟩ := hexLoop_cons_eq_ok_iff.1 h
    obtain ⟨k, hc, h⟩ := hexLoop_cons_eq_ok_iff.1 h
    obtain ⟨l, hd, h⟩ := hexLoop_cons_eq_ok_iff.1 h
    refine ⟨i.toNat, j.toNat, k.toNat, l.toNat, ha, hb, hc, hd, ?_⟩
    rw [← hvalue ha.lt hb.lt hc.lt hd.lt, ← Except.ok.inj h]
  · rintro ⟨i, j, k, l, ha, hb, hc, hd, hcodepoint⟩
    have hcast {n : ℕ} (h : n < 16) : (UInt32.ofNat n).toNat = n :=
      UInt32.toNat_ofNat_of_lt' (by have : n < 2^32 := by omega
                                    exact this)
    have hi := hcast ha.lt
    have hj := hcast hb.lt
    have hk := hcast hc.lt
    have hl := hcast hd.lt
    refine hexLoop_cons_eq_ok_iff.2 ⟨.ofNat i, by rwa [hi], ?_⟩
    refine hexLoop_cons_eq_ok_iff.2 ⟨.ofNat j, by rwa [hj], ?_⟩
    refine hexLoop_cons_eq_ok_iff.2 ⟨.ofNat k, by rwa [hk], ?_⟩
    refine hexLoop_cons_eq_ok_iff.2 ⟨.ofNat l, by rwa [hl], ?_⟩
    refine congrArg Except.ok (UInt32.toNat_inj.1 ?_)
    rw [hcodepoint, hvalue (by rw [hi]; exact ha.lt) (by rw [hj]; exact hb.lt)
      (by rw [hk]; exact hc.lt) (by rw [hl]; exact hd.lt), hi, hj, hk, hl]

/-- `append_utf8` is the encoding, of a character that an escape can name. -/
theorem appendUtf8_eq {codepoint : UInt32} {character : Char}
    (h : character.toNat = codepoint.toNat) (hlt : codepoint.toNat < 65536) :
    appendUtf8 codepoint = String.utf8EncodeChar character := by
  have hval : character.val.toNat = codepoint.toNat := h
  -- The bytes behind the first one, and the first one of two and of three.
  have hlast (n : ℕ) : 0x80 ||| (n &&& 0x3F) = n % 0x40 + 0x80 := by
    rw [Nat.and_two_pow_sub_one_eq_mod n 6,
      ← Nat.two_pow_add_eq_or_of_lt (i := 6) (Nat.mod_lt _ (by decide)) 2]
    omega
  have htwo {n : ℕ} (h : n ≤ 0x7FF) : 0xC0 ||| n >>> 6 = n / 64 % 0x20 + 0xC0 := by
    rw [Nat.shiftRight_eq_div_pow,
      ← Nat.two_pow_add_eq_or_of_lt (i := 5) (b := n / 2^6) (by omega) 6]
    omega
  have hthree {n : ℕ} (h : n < 65536) : 0xE0 ||| n >>> 12 = n / 4096 % 0x10 + 0xE0 := by
    rw [Nat.shiftRight_eq_div_pow,
      ← Nat.two_pow_add_eq_or_of_lt (i := 4) (b := n / 2^12) (by omega) 14]
    omega
  unfold appendUtf8 String.utf8EncodeChar
  simp only [hval, UInt32.le_iff_toNat_le]
  have hone : (0x7F : UInt32).toNat = 0x7F := rfl
  have heleven : (0x7FF : UInt32).toNat = 0x7FF := rfl
  have hbyte {x : UInt32} {n : ℕ} (hx : x.toNat = n) : x.toUInt8 = UInt8.ofNat n := by
    rw [← hx, UInt8.ofNat_uInt32ToNat]
  rw [hone, heleven]
  -- One byte, two, or three.
  by_cases hsmall : codepoint.toNat ≤ 0x7F
  · rw [if_pos hsmall, if_pos hsmall, hbyte rfl]
  rw [if_neg hsmall, if_neg hsmall]
  have hfinal : ((0x80 : UInt32) ||| (codepoint &&& 0x3F)).toNat =
      codepoint.toNat % 0x40 + 0x80 := by
    rw [UInt32.toNat_or, UInt32.toNat_and]
    exact hlast codepoint.toNat
  by_cases hmiddle : codepoint.toNat ≤ 0x7FF
  · have hfirst : ((0xC0 : UInt32) ||| (codepoint >>> 6)).toNat =
        codepoint.toNat / 64 % 0x20 + 0xC0 := by
      rw [UInt32.toNat_or, UInt32.toNat_shiftRight]
      exact htwo hmiddle
    rw [if_pos hmiddle, if_pos hmiddle, hbyte hfirst, hbyte hfinal]
  · have hfirst : ((0xE0 : UInt32) ||| (codepoint >>> 12)).toNat =
        codepoint.toNat / 4096 % 0x10 + 0xE0 := by
      rw [UInt32.toNat_or, UInt32.toNat_shiftRight]
      exact hthree hlt
    have hsecond : ((0x80 : UInt32) ||| ((codepoint >>> 6) &&& 0x3F)).toNat =
        codepoint.toNat / 64 % 0x40 + 0x80 := by
      have hshift : codepoint.toNat >>> 6 = codepoint.toNat / 64 := Nat.shiftRight_eq_div_pow _ 6
      rw [UInt32.toNat_or, UInt32.toNat_and, UInt32.toNat_shiftRight, ← hshift]
      exact hlast (codepoint.toNat >>> 6)
    rw [if_neg hmiddle, if_neg hmiddle, if_pos (by omega), hbyte hfirst, hbyte hsecond,
      hbyte hfinal]

/-- The `switch` of `parse_string` has the escapes of the grammar. -/
theorem simpleEscape_eq_some_iff {escaped byte : UInt8} :
    simpleEscape escaped = some byte ↔ (escaped, byte) ∈ escapes := by
  constructor
  · intro h
    have hall := forall_byte (P := fun escaped => (simpleEscape escaped).all fun byte =>
      decide ((escaped, byte) ∈ escapes)) (by decide +kernel) escaped
    exact of_decide_eq_true ((Option.all_eq_true _ _).1 hall byte h)
  · intro h
    have hall : ∀ pair ∈ escapes, simpleEscape pair.1 = some pair.2 := forall_mem (by decide)
    exact hall _ h

/-! ## Strings -/

/-- The loop of `parse_string` returns only behind the text of a string. -/
theorem chars_of_stringLoop {position : ℕ} {output rest string : List UInt8} {behind : Cursor}
    (h : stringLoop position output rest = .ok (string, behind)) :
    ∃ text tail, Chars text tail ∧ string = output ++ tail ∧
      Between ⟨position, rest⟩ (text ++ [quote]) behind := by
  -- One more part of the text in front.
  have hcons (part : List UInt8) {position : ℕ} {rest text : List UInt8} {behind : Cursor}
      (h : Between ⟨position + part.length, rest⟩ (text ++ [quote]) behind) :
      Between ⟨position, part ++ rest⟩ (part ++ text ++ [quote]) behind := by
    rw [List.append_assoc]
    exact Between.trans ⟨rfl, rfl⟩ h
  fun_induction stringLoop position output rest with
  | case2 position output rest =>
    obtain ⟨rfl, rfl⟩ := Prod.mk.inj (Except.ok.inj h)
    exact ⟨[], [], .nil, (List.append_nil output).symm, rfl, rfl⟩
  | case4 position output current rest hquote hcontrol hbackslash ih =>
    obtain ⟨text, tail, htext, rfl, hbetween⟩ := ih h
    refine ⟨current :: text, current :: tail, ?_, by simp, hcons [current] hbetween⟩
    exact .plain (UInt8.not_lt.1 hcontrol) hquote hbackslash htext
  | case6 position output current hquote hcontrol hbackslash escaped rest byte hescape ih =>
    obtain ⟨text, tail, htext, rfl, hbetween⟩ := ih h
    rw [not_not.1 hbackslash]
    refine ⟨backslash :: escaped :: text, byte :: tail, ?_, by simp,
      hcons [backslash, escaped] hbetween⟩
    exact .escape (simpleEscape_eq_some_iff.1 hescape) htext
  | case10 position output current hquote hcontrol hbackslash escaped hescape hunicode a b c d rest
      codepoint hhex hsurrogate ih =>
    obtain ⟨text, tail, htext, rfl, hbetween⟩ := ih h
    rw [not_not.1 hbackslash, not_not.1 hunicode]
    obtain ⟨i, j, k, l, ha, hb, hc, hd, hcodepoint⟩ := hexLoop_eq_ok_iff.1 hhex
    have hlt : codepoint.toNat < 65536 := by
      have hi := ha.lt
      have hj := hb.lt
      have hk := hc.lt
      have hl := hd.lt
      omega
    -- The code point is a character, since it is not a surrogate.
    have hvalid : codepoint.isValidChar := by
      rw [UInt32.le_iff_toNat_le, UInt32.le_iff_toNat_le] at hsurrogate
      have hlow : (0xD800 : UInt32).toNat = 0xD800 := rfl
      have hhigh : (0xDFFF : UInt32).toNat = 0xDFFF := rfl
      rw [hlow, hhigh] at hsurrogate
      unfold UInt32.isValidChar Nat.isValidChar
      omega
    refine ⟨backslash :: 0x75 :: a :: b :: c :: d :: text, appendUtf8 codepoint ++ tail, ?_,
      by simp, hcons [backslash, 0x75, a, b, c, d] hbetween⟩
    have hencode : appendUtf8 codepoint = String.utf8EncodeChar ⟨codepoint, hvalid⟩ :=
      appendUtf8_eq rfl hlt
    rw [hencode]
    exact .unicode ha hb hc hd hcodepoint htext
  | _ => exact nomatch h

/-- The loop of `parse_string` returns behind the text of any string. -/
theorem Chars.stringLoop {text string : List UInt8} (h : Chars text string) (position : ℕ)
    (output rest : List UInt8) :
    stringLoop position output (text ++ quote :: rest) =
      .ok (output ++ string, ⟨position + text.length + 1, rest⟩) := by
  induction h generalizing position output with
  | nil =>
    rw [List.nil_append, Json.stringLoop.eq_def]
    dsimp only
    rw [if_pos rfl, List.append_nil]
    rfl
  | plain hcontrol hquote hbackslash _ ih =>
    rw [List.cons_append, Json.stringLoop.eq_def]
    dsimp only
    rw [if_neg hquote, if_neg (UInt8.not_lt.2 hcontrol), if_pos hbackslash, ih]
    simp [Nat.add_comm, Nat.add_left_comm]
  | escape hescape _ ih =>
    rw [List.cons_append, List.cons_append, Json.stringLoop.eq_def]
    dsimp only
    rw [if_neg (by decide), if_neg (by decide), if_neg (by decide),
      simpleEscape_eq_some_iff.2 hescape]
    dsimp only
    rw [ih]
    simp [Nat.add_comm, Nat.add_left_comm]
  | @unicode a b c d i j k l character text string ha hb hc hd hcharacter htext ih =>
    -- The four digits are read as the character, which is no surrogate.
    have hhex : hexLoop (position + 2) 0 [a, b, c, d] = .ok character.val :=
      hexLoop_eq_ok_iff.2 ⟨i, j, k, l, ha, hb, hc, hd, hcharacter⟩
    have hlt : character.toNat < 65536 := by
      have hi := ha.lt
      have hj := hb.lt
      have hk := hc.lt
      have hl := hd.lt
      omega
    have hsurrogate : ¬(0xD800 ≤ character.val ∧ character.val ≤ 0xDFFF) := by
      have hvalid := character.valid
      unfold UInt32.isValidChar Nat.isValidChar at hvalid
      have hlow : (0xD800 : UInt32).toNat = 0xD800 := rfl
      have hhigh : (0xDFFF : UInt32).toNat = 0xDFFF := rfl
      rw [UInt32.le_iff_toNat_le, UInt32.le_iff_toNat_le, hlow, hhigh]
      omega
    have hsimple : simpleEscape 0x75 = none := rfl
    -- The loop goes on behind its encoding.
    simp only [List.cons_append]
    rw [Json.stringLoop.eq_def]
    dsimp only
    rw [if_neg (by decide), if_neg (by decide), if_neg (by decide), hsimple]
    dsimp only
    rw [if_neg (by decide), hhex]
    dsimp only
    rw [if_neg hsurrogate, ih, appendUtf8_eq rfl hlt]
    simp [Nat.add_comm, Nat.add_left_comm]

/-- `parse_string` reads exactly the quoted texts of the grammar. -/
theorem parseString_eq_ok_iff {cursor behind : Cursor} {string : List UInt8} :
    parseString cursor = .ok (string, behind) ↔
      ∃ text, Chars text string ∧ Between cursor (quote :: (text ++ [quote])) behind := by
  obtain ⟨position, rest⟩ := cursor
  unfold parseString
  constructor
  · intro h
    cases rest with
    | nil => exact nomatch h
    | cons byte rest =>
      dsimp only at h
      split_ifs at h with hquote
      · exact nomatch h
      · obtain ⟨text, tail, htext, rfl, hbetween⟩ := chars_of_stringLoop h
        rw [not_not] at hquote
        refine ⟨text, htext, ?_⟩
        rw [hquote]
        exact Between.cons ⟨rfl, rfl⟩ hbetween
  · rintro ⟨text, htext, hrest, hposition⟩
    simp only [List.cons_append, List.append_assoc, List.nil_append] at hrest
    dsimp only
    rw [hrest]
    dsimp only
    rw [if_neg (not_not.2 rfl), htext.stringLoop]
    have hbehind : behind = ⟨position + 1 + text.length + 1, behind.rest⟩ := by
      obtain ⟨place, left⟩ := behind
      rw [Cursor.mk.injEq]
      simp only [List.length_cons, List.length_append, List.length_nil] at hposition
      exact ⟨by omega, rfl⟩
    rw [hbehind]
    rfl

/-! ## Integers -/

/-- `std::from_chars` reads exactly the numbers that fit into 64 bits. -/
theorem fromChars_eq_some_iff {digits : List UInt8} {integer : UInt64} :
    fromChars digits = some integer ↔ integer.toNat = decimal digits := by
  unfold fromChars
  constructor
  · intro h
    split_ifs at h with hlt
    rw [← Option.some.inj h]
    exact UInt64.toNat_ofNat_of_lt' hlt
  · intro h
    rw [if_pos (h ▸ integer.toNat_lt), ← h, UInt64.ofNat_toNat]

/-- What is at the cursor does not continue an integer. -/
def Delimited (cursor : Cursor) : Prop :=
  ∀ byte ∈ cursor.rest.head?, ¬ isDigit byte ∧ byte ≠ 0x2E ∧ byte ≠ 0x65 ∧ byte ≠ 0x45

/-- The end of `parse_integer` returns the number, where it returns. -/
theorem of_finishInteger {digits : List UInt8} {cursor behind : Cursor} {value : JsonValue}
    (h : finishInteger digits cursor = .ok (value, behind)) :
    ∃ integer, value = .integer integer ∧ integer.toNat = decimal digits ∧ behind = cursor := by
  unfold finishInteger at h
  split_ifs at h with hfraction
  · exact nomatch h
  · cases hinteger : fromChars digits with
    | none => simp [hinteger, Cursor.fail] at h
    | some integer =>
      rw [hinteger] at h
      obtain ⟨rfl, rfl⟩ := Prod.mk.inj (Except.ok.inj h)
      exact ⟨integer, rfl, fromChars_eq_some_iff.1 hinteger, rfl⟩

/-- The end of `parse_integer` returns the number, if nothing continues it. -/
theorem finishInteger_eq {digits : List UInt8} {cursor : Cursor} {integer : UInt64}
    (hvalue : integer.toNat = decimal digits) (hdelimited : Delimited cursor) :
    finishInteger digits cursor = .ok (.integer integer, cursor) := by
  unfold finishInteger
  rw [if_neg, fromChars_eq_some_iff.2 hvalue]
  intro hany
  obtain ⟨byte, hbyte, hcontinues⟩ := (Option.any_eq_true _ _).1 hany
  obtain ⟨hdigit, hdot, hsmall, hcapital⟩ := hdelimited byte hbyte
  simp [hdot, hsmall, hcapital] at hcontinues

/-- `parse_integer` returns only behind the numeral of an integer. -/
theorem numeral_of_parseInteger {cursor behind : Cursor} {value : JsonValue}
    (h : parseInteger cursor = .ok (value, behind)) :
    ∃ text integer, value = .integer integer ∧ Numeral text integer ∧
      Between cursor text behind := by
  unfold parseInteger at h
  cases hminus : cursor.consume 0x2D with
  | some after => simp [hminus, Cursor.fail] at h
  | none =>
    rw [hminus] at h
    dsimp only at h
    cases hzero : cursor.consume 0x30 with
    | some after =>
      rw [hzero] at h
      dsimp only at h
      split_ifs at h with hdigit
      · exact nomatch h
      · obtain ⟨integer, rfl, hvalue, rfl⟩ := of_finishInteger h
        refine ⟨[0x30], integer, rfl, ⟨by simp, forall_mem (by decide), fun _ => rfl, hvalue⟩, ?_⟩
        exact consume_eq_some_iff.1 hzero
    | none =>
      rw [hzero] at h
      dsimp only at h
      split_ifs at h with hfirst
      · obtain ⟨integer, rfl, hvalue, rfl⟩ := of_finishInteger h
        refine ⟨_, integer, rfl, ?_, between_takeWhile isDigit cursor⟩
        obtain ⟨first, hhead, hrange⟩ := (Option.any_eq_true _ _).1 hfirst
        rw [decide_eq_true_eq] at hrange
        obtain ⟨more, hrest⟩ := List.head?_eq_some_iff.1 hhead
        have hdigit : isDigit first := by
          unfold isDigit
          rw [decide_eq_true_eq]
          exact ⟨UInt8.le_trans (by decide) hrange.1, hrange.2⟩
        have htake : cursor.rest.takeWhile isDigit = first :: more.takeWhile isDigit := by
          rw [hrest, List.takeWhile_cons_of_pos hdigit]
        refine ⟨by simp [htake], fun byte hbyte => List.mem_takeWhile_imp hbyte, ?_, hvalue⟩
        intro hleading
        rw [htake, List.head?_cons, Option.some.injEq] at hleading
        rw [hleading] at hrange
        exact absurd hrange.1 (by decide)
      · exact nomatch h

/-- `parse_integer` returns behind the numeral of any integer. -/
theorem Numeral.parseInteger {text : List UInt8} {integer : UInt64} {cursor behind : Cursor}
    (h : Numeral text integer) (hbetween : Between cursor text behind)
    (hdelimited : Delimited behind) :
    parseInteger cursor = .ok (.integer integer, behind) := by
  obtain ⟨first, more, rfl⟩ := List.exists_cons_of_ne_nil h.nonempty
  have hrest : cursor.rest = first :: (more ++ behind.rest) := hbetween.rest
  have hdigit : isDigit first := h.digits first List.mem_cons_self
  -- A numeral has no sign.
  have hminus : first ≠ 0x2D := by
    rintro rfl
    exact absurd hdigit (by decide)
  unfold Json.parseInteger
  rw [consume_eq_none hrest hminus]
  dsimp only
  by_cases hzero : first = 0x30
  · -- Zero is alone.
    have htext := h.leading (by rw [hzero]; rfl)
    rw [htext] at hbetween
    rw [consume_eq_some_iff.2 hbetween]
    dsimp only
    rw [if_neg]
    · exact finishInteger_eq (htext ▸ h.value) hdelimited
    · intro hany
      obtain ⟨byte, hbyte, hcontinues⟩ := (Option.any_eq_true _ _).1 hany
      exact (hdelimited byte hbyte).1 hcontinues
  -- Another numeral begins with a digit that is not zero.
  · rw [consume_eq_none hrest hzero]
    dsimp only
    have hrange : 0x31 ≤ first ∧ first ≤ 0x39 := by
      unfold isDigit at hdigit
      rw [decide_eq_true_eq] at hdigit
      have hne : first.toNat ≠ 0x30 := fun hnat => hzero (UInt8.toNat_inj.1 hnat)
      have hlow := UInt8.le_iff_toNat_le.1 hdigit.1
      have hthirty : (0x30 : UInt8).toNat = 0x30 := rfl
      refine ⟨UInt8.le_iff_toNat_le.2 ?_, hdigit.2⟩
      have hone : (0x31 : UInt8).toNat = 0x31 := rfl
      omega
    rw [if_pos (by rw [hrest]; simpa using hrange),
      takeWhile_between h.digits hbetween fun byte hbyte => (hdelimited byte hbyte).1,
      hbetween.advance]
    exact finishInteger_eq h.value hdelimited

end RemoteBSP.MockMcu.Json
