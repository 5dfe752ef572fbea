import Mathlib.Tactic
import RemoteBSP.MockMcu.Json

/-!
# The grammar of JSON

What the texts of JSON are, without the parser: the values with the texts that stand for them
(`Derives`), where only non-negative integers below `2^64` without fraction and exponent are
numbers, and where the escapes of a string stand for characters, so that there is none of a
surrogate. The bytes between the tokens are a parameter: RFC 8259 has four of them (`isJsonSpace`),
and `std::isspace` has two more. `Strict` is a text of RFC 8259: blanks are the four, and the bytes
are UTF-8. `isText_json_iff` says what a text with the wider blanks must be like to be one with the
four.
-/

namespace RemoteBSP.MockMcu.Json

/-- The bytes that may follow a backslash, but for `u`, with the bytes that they stand for. -/
def escapes : List (UInt8 × UInt8) :=
  [(quote, quote), (backslash, backslash), (0x2F, 0x2F), (0x62, 0x08), (0x66, 0x0C), (0x6E, 0x0A),
    (0x72, 0x0D), (0x74, 0x09)]

/-- The ten digits and the small letters to `f`. -/
def smallDigits : List UInt8 :=
  [0x30, 0x31, 0x32, 0x33, 0x34, 0x35, 0x36, 0x37, 0x38, 0x39, 0x61, 0x62, 0x63, 0x64, 0x65, 0x66]

/-- The ten digits and the capital letters to `F`. -/
def capitalDigits : List UInt8 :=
  [0x30, 0x31, 0x32, 0x33, 0x34, 0x35, 0x36, 0x37, 0x38, 0x39, 0x41, 0x42, 0x43, 0x44, 0x45, 0x46]

/-- The byte is a hexadecimal digit of this value. -/
def HexDigit (digit : UInt8) (value : ℕ) : Prop :=
  smallDigits[value]? = some digit ∨ capitalDigits[value]? = some digit

/-- The text between the quotation marks of a string, and the bytes that it stands for. A character
is never a surrogate. -/
inductive Chars : List UInt8 → List UInt8 → Prop
  | nil : Chars [] []
  | plain {byte : UInt8} {text string : List UInt8} (hcontrol : 0x20 ≤ byte)
      (hquote : byte ≠ quote) (hbackslash : byte ≠ backslash) (htext : Chars text string) :
      Chars (byte :: text) (byte :: string)
  | escape {escaped byte : UInt8} {text string : List UInt8} (hescape : (escaped, byte) ∈ escapes)
      (htext : Chars text string) : Chars (backslash :: escaped :: text) (byte :: string)
  | unicode {a b c d : UInt8} {i j k l : ℕ} {character : Char} {text string : List UInt8}
      (ha : HexDigit a i) (hb : HexDigit b j) (hc : HexDigit c k) (hd : HexDigit d l)
      (hcharacter : character.toNat = 4096 * i + 256 * j + 16 * k + l)
      (htext : Chars text string) :
      Chars (backslash :: 0x75 :: a :: b :: c :: d :: text)
        (String.utf8EncodeChar character ++ string)

/-- The text is the decimal numeral of the integer: digits without a zero in front. -/
structure Numeral (text : List UInt8) (integer : UInt64) : Prop where
  /-- A numeral is not empty. -/
  nonempty : text ≠ []
  /-- A numeral has no sign, no point and no exponent. -/
  digits : ∀ byte ∈ text, isDigit byte
  /-- Only zero itself begins with a zero. -/
  leading : text.head? = some 0x30 → text = [0x30]
  /-- The digits stand for the integer. -/
  value : integer.toNat = decimal text

/-- The members of an object as the map that they are: in the order of the keys, no key twice. -/
def Ordered (object : List (List UInt8 × JsonValue)) : Prop :=
  object.Pairwise fun first second => first.1 < second.1

/-- A text that a parser may skip between two tokens. -/
def Blank (space : UInt8 → Bool) (text : List UInt8) : Prop := ∀ byte ∈ text, space byte

/-- What a text can stand for: a value, the elements of an array, or the members of an object. -/
inductive Phrase
  | value (value : JsonValue)
  | elements (elements : List JsonValue)
  | members (members : List (List UInt8 × JsonValue))

/-- The text stands for the phrase. -/
inductive Derives (space : UInt8 → Bool) : Phrase → List UInt8 → Prop
  | null : Derives space (.value .null) nullText
  | boolTrue : Derives space (.value (.boolean true)) trueText
  | boolFalse : Derives space (.value (.boolean false)) falseText
  | integer {text : List UInt8} {integer : UInt64} (hnumeral : Numeral text integer) :
      Derives space (.value (.integer integer)) text
  | string {text string : List UInt8} (htext : Chars text string) :
      Derives space (.value (.string string)) (quote :: (text ++ [quote]))
  | emptyArray {blank : List UInt8} (hblank : Blank space blank) :
      Derives space (.value (.array [])) (openBracket :: (blank ++ [closeBracket]))
  | array {elements : List JsonValue} {text : List UInt8}
      (htext : Derives space (.elements elements) text) :
      Derives space (.value (.array elements)) (openBracket :: (text ++ [closeBracket]))
  | emptyObject {blank : List UInt8} (hblank : Blank space blank) :
      Derives space (.value (.object [])) (openBrace :: (blank ++ [closeBrace]))
  | object {members object : List (List UInt8 × JsonValue)} {text : List UInt8}
      (htext : Derives space (.members members) text) (hperm : object.Perm members)
      (hordered : Ordered object) :
      Derives space (.value (.object object)) (openBrace :: (text ++ [closeBrace]))
  | lastElement {value : JsonValue} {before text after : List UInt8}
      (hbefore : Blank space before) (htext : Derives space (.value value) text)
      (hafter : Blank space after) :
      Derives space (.elements [value]) (before ++ (text ++ after))
  | element {value : JsonValue} {elements : List JsonValue} {before text after rest : List UInt8}
      (hbefore : Blank space before) (htext : Derives space (.value value) text)
      (hafter : Blank space after) (hrest : Derives space (.elements elements) rest) :
      Derives space (.elements (value :: elements))
        (before ++ (text ++ (after ++ comma :: rest)))
  | lastMember {key : List UInt8} {value : JsonValue}
      {before keyText between behind text after : List UInt8}
      (hbefore : Blank space before) (hkey : Chars keyText key) (hbetween : Blank space between)
      (hbehind : Blank space behind) (htext : Derives space (.value value) text)
      (hafter : Blank space after) :
      Derives space (.members [(key, value)])
        (before ++ quote :: (keyText ++ quote :: (between ++ colon :: (behind ++ (text ++ after)))))
  | member {key : List UInt8} {value : JsonValue} {members : List (List UInt8 × JsonValue)}
      {before keyText between behind text after rest : List UInt8}
      (hbefore : Blank space before) (hkey : Chars keyText key) (hbetween : Blank space between)
      (hbehind : Blank space behind) (htext : Derives space (.value value) text)
      (hafter : Blank space after) (hrest : Derives space (.members members) rest) :
      Derives space (.members ((key, value) :: members))
        (before ++ quote :: (keyText ++ quote ::
          (between ++ colon :: (behind ++ (text ++ (after ++ comma :: rest))))))

/-- The input is a text of the value, with blanks around it. -/
def IsText (space : UInt8 → Bool) (input : List UInt8) (value : JsonValue) : Prop :=
  ∃ before text after, Blank space before ∧ Derives space (.value value) text ∧
    Blank space after ∧ input = before ++ (text ++ after)

/-- The blanks of RFC 8259: space, tab, line feed and carriage return. -/
def isJsonSpace (byte : UInt8) : Bool := byte = 0x20 ∨ byte = 0x09 ∨ byte = 0x0A ∨ byte = 0x0D

/-- The bytes are the UTF-8 encoding of some characters. -/
def Utf8 (input : List UInt8) : Prop := input.toByteArray.IsValidUTF8

/-- The input is a text of RFC 8259 of the value. -/
def Strict (input : List UInt8) (value : JsonValue) : Prop :=
  IsText isJsonSpace input value ∧ Utf8 input

/-! ## The bytes of a text -/

/-- What holds of all bytes holds of each. -/
theorem forall_byte {P : UInt8 → Prop} (h : ∀ n < 256, P (.ofNat n)) (byte : UInt8) : P byte := by
  have hbyte := h byte.toNat byte.toNat_lt
  rwa [UInt8.ofNat_toNat] at hbyte

/-- What can be checked of the members of a list holds of each. -/
theorem forall_mem {α : Type} {P : α → Prop} [DecidablePred P] {list : List α}
    (h : list.all fun member => decide (P member)) : ∀ member ∈ list, P member :=
  fun member hmember => of_decide_eq_true (List.all_eq_true.1 h member hmember)

/-- The byte is no control character. -/
def Printable (byte : UInt8) : Prop := 0x20 ≤ byte

/-- Whether a byte is a control character can be decided. -/
instance : DecidablePred Printable := fun byte => inferInstanceAs (Decidable (0x20 ≤ byte))

/-- A hexadecimal digit is no control character. -/
theorem HexDigit.printable {digit : UInt8} {value : ℕ} (h : HexDigit digit value) :
    Printable digit := by
  have hall : ∀ byte ∈ smallDigits ++ capitalDigits, Printable byte := forall_mem (by decide)
  refine hall digit (List.mem_append.2 ?_)
  exact h.imp List.mem_of_getElem? List.mem_of_getElem?

/-- There is no control character in a string. -/
theorem Chars.printable {text string : List UInt8} (h : Chars text string) :
    ∀ byte ∈ text, Printable byte := by
  have hescapes : ∀ pair ∈ escapes, Printable pair.1 := forall_mem (by decide)
  have hbackslash : Printable backslash := by decide
  induction h with
  | nil => simp
  | plain hcontrol _ _ _ ih => simpa using ⟨hcontrol, ih⟩
  | escape hescape _ ih => simpa using ⟨hbackslash, hescapes _ hescape, ih⟩
  | unicode ha hb hc hd _ _ ih =>
    have hu : Printable 0x75 := by decide
    simpa using ⟨hbackslash, hu, ha.printable, hb.printable, hc.printable, hd.printable, ih⟩

/-- A digit is no control character. -/
theorem printable_of_isDigit {byte : UInt8} (h : isDigit byte) : Printable byte := by
  unfold isDigit at h
  rw [decide_eq_true_eq] at h
  exact UInt8.le_trans (by decide) h.1

/-- The text has control characters only where it is blank. -/
def Legible (space : UInt8 → Bool) (text : List UInt8) : Prop :=
  ∀ byte ∈ text, space byte ∨ Printable byte

/-- Blanks can stand in a document that is read. -/
theorem Legible.of_blank {space : UInt8 → Bool} {text : List UInt8} (h : Blank space text) :
    Legible space text :=
  fun byte hbyte => .inl (h byte hbyte)

/-- Printable characters can stand in a document that is read. -/
theorem Legible.of_printable {space : UInt8 → Bool} {text : List UInt8}
    (h : ∀ byte ∈ text, Printable byte) : Legible space text :=
  fun byte hbyte => .inr (h byte hbyte)

/-- Two legible texts in a row are legible. -/
theorem Legible.append {space : UInt8 → Bool} {text more : List UInt8} (h : Legible space text)
    (hmore : Legible space more) : Legible space (text ++ more) :=
  fun byte hbyte => (List.mem_append.1 hbyte).elim (h byte) (hmore byte)

/-- A printable byte in front of a legible text. -/
theorem Legible.cons {space : UInt8 → Bool} {byte : UInt8} {text : List UInt8}
    (hbyte : Printable byte) (h : Legible space text) : Legible space (byte :: text) := by
  intro other hother
  rcases List.mem_cons.1 hother with rfl | hother
  · exact .inr hbyte
  · exact h other hother

/-- A text has control characters only where it is blank. -/
theorem Derives.legible {space : UInt8 → Bool} {phrase : Phrase} {text : List UInt8}
    (h : Derives space phrase text) : Legible space text := by
  -- The tokens of the grammar are printable.
  have hquote : Printable quote := by decide
  have hcomma : Printable comma := by decide
  have hcolon : Printable colon := by decide
  have hbracket : Printable openBracket ∧ Legible space [closeBracket] :=
    ⟨by decide, .of_printable (forall_mem (by decide))⟩
  have hbrace : Printable openBrace ∧ Legible space [closeBrace] :=
    ⟨by decide, .of_printable (forall_mem (by decide))⟩
  induction h with
  | null => exact .of_printable (forall_mem (by decide))
  | boolTrue => exact .of_printable (forall_mem (by decide))
  | boolFalse => exact .of_printable (forall_mem (by decide))
  | integer hnumeral =>
    exact .of_printable fun byte hbyte => printable_of_isDigit (hnumeral.digits byte hbyte)
  | string htext =>
    have hend : Legible space [quote] := .of_printable (forall_mem (by decide))
    exact .cons hquote (.append (.of_printable htext.printable) hend)
  | emptyArray hblank => exact .cons hbracket.1 (.append (.of_blank hblank) hbracket.2)
  | array _ ih => exact .cons hbracket.1 (ih.append hbracket.2)
  | emptyObject hblank => exact .cons hbrace.1 (.append (.of_blank hblank) hbrace.2)
  | object _ _ _ ih => exact .cons hbrace.1 (ih.append hbrace.2)
  -- Elements and members are their parts, with blanks between them.
  | lastElement hbefore _ hafter ih =>
    exact .append (.of_blank hbefore) (ih.append (.of_blank hafter))
  | element hbefore _ hafter _ ih ihrest =>
    have htail := Legible.append (.of_blank hafter) (.cons hcomma ihrest)
    exact .append (.of_blank hbefore) (ih.append htail)
  | lastMember hbefore hkey hbetween hbehind _ hafter ih =>
    have hvalue := Legible.append (.of_blank hbehind) (ih.append (.of_blank hafter))
    have hnamed := Legible.append (.of_blank hbetween) (.cons hcolon hvalue)
    have hname := Legible.append (.of_printable hkey.printable) (.cons hquote hnamed)
    exact .append (.of_blank hbefore) (.cons hquote hname)
  | member hbefore hkey hbetween hbehind _ hafter _ ih ihrest =>
    have htail := Legible.append (.of_blank hafter) (.cons hcomma ihrest)
    have hvalue := Legible.append (.of_blank hbehind) (ih.append htail)
    have hnamed := Legible.append (.of_blank hbetween) (.cons hcolon hvalue)
    have hname := Legible.append (.of_printable hkey.printable) (.cons hquote hnamed)
    exact .append (.of_blank hbefore) (.cons hquote hname)

/-- A text stays one when the bytes that are blank in it are blank otherwise too. -/
theorem Derives.of_blank {space other : UInt8 → Bool} {phrase : Phrase} {text : List UInt8}
    (h : Derives space phrase text) (hother : ∀ byte ∈ text, space byte → other byte) :
    Derives other phrase text := by
  -- A blank inside the text is blank otherwise too.
  have hblank {blank : List UInt8} (h : Blank space blank)
      (hin : ∀ byte ∈ blank, space byte → other byte) : Blank other blank :=
    fun byte hbyte => hin byte hbyte (h byte hbyte)
  induction h with
  | null => exact .null
  | boolTrue => exact .boolTrue
  | boolFalse => exact .boolFalse
  | integer hnumeral => exact .integer hnumeral
  | string htext => exact .string htext
  | emptyArray h => exact .emptyArray (hblank h (by grind))
  | array _ ih => exact .array (ih (by grind))
  | emptyObject h => exact .emptyObject (hblank h (by grind))
  | object _ hperm hordered ih => exact .object (ih (by grind)) hperm hordered
  | lastElement hbefore _ hafter ih =>
    exact .lastElement (hblank hbefore (by grind)) (ih (by grind)) (hblank hafter (by grind))
  | element hbefore _ hafter _ ih ihrest =>
    exact .element (hblank hbefore (by grind)) (ih (by grind)) (hblank hafter (by grind))
      (ihrest (by grind))
  | lastMember hbefore hkey hbetween hbehind _ hafter ih =>
    exact .lastMember (hblank hbefore (by grind)) hkey (hblank hbetween (by grind))
      (hblank hbehind (by grind)) (ih (by grind)) (hblank hafter (by grind))
  | member hbefore hkey hbetween hbehind _ hafter _ ih ihrest =>
    exact .member (hblank hbefore (by grind)) hkey (hblank hbetween (by grind))
      (hblank hbehind (by grind)) (ih (by grind)) (hblank hafter (by grind)) (ihrest (by grind))

/-- A document stays one if more bytes count as blanks. -/
theorem IsText.of_blank {space other : UInt8 → Bool} {input : List UInt8} {value : JsonValue}
    (h : IsText space input value) (hother : ∀ byte ∈ input, space byte → other byte) :
    IsText other input value := by
  obtain ⟨before, text, after, hbefore, htext, hafter, rfl⟩ := h
  refine ⟨before, text, after, ?_, htext.of_blank (by grind), ?_, rfl⟩
  · exact fun byte hbyte => hother byte (by grind) (hbefore byte hbyte)
  · exact fun byte hbyte => hother byte (by grind) (hafter byte hbyte)

/-- Every byte of a document is a blank or printable. -/
theorem IsText.legible {space : UInt8 → Bool} {input : List UInt8} {value : JsonValue}
    (h : IsText space input value) : Legible space input := by
  obtain ⟨before, text, after, hbefore, htext, hafter, rfl⟩ := h
  exact .append (.of_blank hbefore) (htext.legible.append (.of_blank hafter))

/-- `std::isspace` has two bytes more than JSON: the vertical tab and the form feed. -/
theorem isSpace_iff (byte : UInt8) : isSpace byte ↔ isJsonSpace byte ∨ byte = 0x0B ∨ byte = 0x0C :=
  forall_byte (P := fun byte => isSpace byte ↔ isJsonSpace byte ∨ byte = 0x0B ∨ byte = 0x0C)
    (by decide +kernel) byte

/-- A text has the blanks of JSON exactly when it is one with the blanks of `std::isspace` that has
neither vertical tab nor form feed. -/
theorem isText_json_iff (input : List UInt8) (value : JsonValue) :
    IsText isJsonSpace input value ↔
      IsText isSpace input value ∧ 0x0B ∉ input ∧ 0x0C ∉ input := by
  constructor
  · intro h
    refine ⟨h.of_blank fun byte _ hspace => (isSpace_iff byte).2 (.inl hspace), ?_, ?_⟩
    · intro hbyte
      exact absurd (h.legible _ hbyte) (by decide)
    · intro hbyte
      exact absurd (h.legible _ hbyte) (by decide)
  · rintro ⟨h, htab, hfeed⟩
    refine h.of_blank fun byte hbyte hspace => ?_
    rcases (isSpace_iff byte).1 hspace with hspace | rfl | rfl
    · exact hspace
    · exact absurd hbyte htab
    · exact absurd hbyte hfeed

end RemoteBSP.MockMcu.Json
