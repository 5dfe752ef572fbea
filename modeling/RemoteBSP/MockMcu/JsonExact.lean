import Mathlib.Data.List.Sort
import RemoteBSP.MockMcu.JsonTokens

/-!
# The JSON parser and the grammar

`parse` returns a value exactly when the input is a text of it, where the blanks are those of
`std::isspace` (`parse_eq_ok_iff`). One direction is by induction on the depth of the calls: a
function that returns has the text of its phrase behind it (`derives_of_returns`). The other is by
induction on the derivation (`Derives.parses`): the parser sees from the next byte which phrase
comes, and what follows a value does not continue it.

The parser of the source has no bound on the depth of its calls, and ends on any input. In the model
a call for which none are left has an exception without a text, which `parse` never returns
(`ends_parse`): every two calls take a byte at least. So what the bound is makes no difference from
the one of `parse` on (`parseWithin_eq_parse`).

`std::isspace` and bytes that are no UTF-8 are where the parser takes more than the texts of
RFC 8259, and nowhere else does it differ from them (`parse_strict_iff`).
-/

namespace RemoteBSP.MockMcu.Json

/-! ## What a value begins with, and what follows it -/

/-- The bytes that a value begins with. -/
def starts : List UInt8 :=
  [openBrace, openBracket, quote, 0x74, 0x66, 0x6E, 0x30, 0x31, 0x32, 0x33, 0x34, 0x35, 0x36, 0x37,
    0x38, 0x39]

/-- A digit is one of them. -/
theorem mem_starts_of_isDigit {byte : UInt8} (h : isDigit byte) : byte ∈ starts :=
  forall_byte (P := fun byte => isDigit byte → byte ∈ starts) (by decide +kernel) byte h

/-- The text of a value begins with one of them. -/
theorem Derives.starts {space : UInt8 → Bool} {value : JsonValue} {text : List UInt8}
    (h : Derives space (.value value) text) : ∃ byte rest, text = byte :: rest ∧ byte ∈ starts := by
  cases h with
  | null | boolTrue | boolFalse => exact ⟨_, _, rfl, by decide⟩
  | integer hnumeral =>
    obtain ⟨first, more, rfl⟩ := List.exists_cons_of_ne_nil hnumeral.nonempty
    exact ⟨first, more, rfl, mem_starts_of_isDigit (hnumeral.digits first List.mem_cons_self)⟩
  | string _ => exact ⟨_, _, rfl, by decide⟩
  | emptyArray _ | array _ => exact ⟨_, _, rfl, by decide⟩
  | emptyObject _ | object _ _ _ => exact ⟨_, _, rfl, by decide⟩

/-- The text of the elements of an array begins with a value. -/
theorem Derives.elements_starts {space : UInt8 → Bool} {elements : List JsonValue}
    {text : List UInt8} (h : Derives space (.elements elements) text) :
    ∃ before byte rest, Blank space before ∧ text = before ++ byte :: rest ∧
      byte ∈ Json.starts := by
  cases h with
  | lastElement hbefore htext _ | element hbefore htext _ _ =>
    obtain ⟨byte, rest, rfl, hbyte⟩ := htext.starts
    exact ⟨_, byte, _, hbefore, rfl, hbyte⟩

/-- The text of the members of an object begins with a string. -/
theorem Derives.members_starts {space : UInt8 → Bool} {members : List (List UInt8 × JsonValue)}
    {text : List UInt8} (h : Derives space (.members members) text) :
    ∃ before rest, Blank space before ∧ text = before ++ quote :: rest := by
  cases h with
  | lastMember hbefore _ _ _ _ _ | member hbefore _ _ _ _ _ _ => exact ⟨_, _, hbefore, rfl⟩

/-- Blanks in front of the elements of an array belong to them. -/
theorem Derives.blank_elements {space : UInt8 → Bool} {elements : List JsonValue}
    {blank text : List UInt8} (hblank : Blank space blank)
    (h : Derives space (.elements elements) text) :
    Derives space (.elements elements) (blank ++ text) := by
  have hfront {before : List UInt8} (hbefore : Blank space before) :
      Blank space (blank ++ before) :=
    fun byte hbyte => (List.mem_append.1 hbyte).elim (hblank byte) (hbefore byte)
  cases h with
  | lastElement hbefore htext hafter =>
    rw [← List.append_assoc]
    exact .lastElement (hfront hbefore) htext hafter
  | element hbefore htext hafter hrest =>
    rw [← List.append_assoc]
    exact .element (hfront hbefore) htext hafter hrest

/-- Blanks in front of the members of an object belong to them. -/
theorem Derives.blank_members {space : UInt8 → Bool} {members : List (List UInt8 × JsonValue)}
    {blank text : List UInt8} (hblank : Blank space blank)
    (h : Derives space (.members members) text) :
    Derives space (.members members) (blank ++ text) := by
  have hfront {before : List UInt8} (hbefore : Blank space before) :
      Blank space (blank ++ before) :=
    fun byte hbyte => (List.mem_append.1 hbyte).elim (hblank byte) (hbefore byte)
  cases h with
  | lastMember hbefore hkey hbetween hbehind htext hafter =>
    rw [← List.append_assoc]
    exact .lastMember (hfront hbefore) hkey hbetween hbehind htext hafter
  | member hbefore hkey hbetween hbehind htext hafter hrest =>
    rw [← List.append_assoc]
    exact .member (hfront hbefore) hkey hbetween hbehind htext hafter hrest

/-- A cursor at a byte that is no blank is at a token. -/
theorem atToken_of_rest {cursor : Cursor} {byte : UInt8} {rest : List UInt8}
    (hrest : cursor.rest = byte :: rest) (hbyte : ¬ isSpace byte) : AtToken cursor := by
  intro first hfirst
  rw [hrest, List.head?_cons, Option.mem_some_iff] at hfirst
  exact hfirst ▸ hbyte

/-- The bytes that may follow a value: a comma and the closing bracket and brace. -/
def closers : List UInt8 := [comma, closeBracket, closeBrace]

/-- A comma or a bracket that closes does not continue an integer. -/
theorem delimited_of_rest {cursor : Cursor} {byte : UInt8} {rest : List UInt8}
    (hrest : cursor.rest = byte :: rest) (hbyte : byte ∈ closers) : Delimited cursor := by
  intro first hfirst
  rw [hrest, List.head?_cons, Option.mem_some_iff] at hfirst
  have hall : ∀ byte ∈ closers, ¬ isDigit byte ∧ byte ≠ 0x2E ∧ byte ≠ 0x65 ∧ byte ≠ 0x45 :=
    forall_mem (by decide)
  exact hall first (hfirst ▸ hbyte)

/-- A blank does not continue an integer, and nor does the end of the text. -/
theorem Delimited.of_blank {cursor behind : Cursor} {blank : List UInt8}
    (hblank : Blank isSpace blank) (h : Between cursor blank behind)
    (hdelimited : Delimited behind) : Delimited cursor := by
  cases blank with
  | nil =>
    intro byte hbyte
    rw [h.rest] at hbyte
    exact hdelimited byte hbyte
  | cons first more =>
    intro byte hbyte
    rw [h.rest, List.cons_append, List.head?_cons, Option.mem_some_iff] at hbyte
    have hspace := hblank first List.mem_cons_self
    rw [hbyte] at hspace
    exact forall_byte (P := fun byte => isSpace byte →
      ¬ isDigit byte ∧ byte ≠ 0x2E ∧ byte ≠ 0x65 ∧ byte ≠ 0x45) (by decide +kernel) byte hspace

/-- Behind a value and blanks, at a closer, `skip_space` skips the blanks, and the value is
delimited. -/
theorem at_closer {cursor behind last : Cursor} {blank : List UInt8} {closer : UInt8}
    (hblank : Blank isSpace blank) (h : Between cursor blank behind)
    (hcloser : Between behind [closer] last) (hmem : closer ∈ closers) :
    cursor.skipSpace = behind ∧ Delimited cursor := by
  have hspace : ∀ byte ∈ closers, ¬ isSpace byte := forall_mem (by decide)
  refine ⟨skipSpace_eq hblank h (atToken_of_rest hcloser.rest (hspace closer hmem)), ?_⟩
  exact Delimited.of_blank hblank h (delimited_of_rest hcloser.rest hmem)

/-! ## The members of an object -/

/-- `emplace` puts a new key in its place, and says so of a key that is there. -/
theorem emplace_cases (key : List UInt8) (value : JsonValue)
    {object : List (List UInt8 × JsonValue)} (hordered : Ordered object) :
    (∃ inserted, emplace key value object = (true, inserted) ∧ Ordered inserted ∧
        inserted.Perm ((key, value) :: object)) ∨
      ∃ same, emplace key value object = (false, same) ∧ key ∈ object.map Prod.fst := by
  unfold Ordered at hordered ⊢
  induction object with
  | nil => exact .inl ⟨_, rfl, List.pairwise_singleton _ _, List.Perm.refl _⟩
  | cons member members ih =>
    obtain ⟨hfirst, hmembers⟩ := List.pairwise_cons.1 hordered
    unfold emplace
    by_cases hbefore : key < member.1
    · rw [if_pos hbefore]
      refine .inl ⟨_, rfl, List.pairwise_cons.2 ⟨?_, hordered⟩, List.Perm.refl _⟩
      intro other hother
      rcases List.mem_cons.1 hother with rfl | hother
      · exact hbefore
      · exact List.lt_trans hbefore (hfirst other hother)
    rw [if_neg hbefore]
    by_cases hsame : key = member.1
    · rw [if_pos hsame]
      exact .inr ⟨_, rfl, hsame ▸ List.mem_cons_self⟩
    rw [if_neg hsame]
    -- The key comes behind the first member.
    have hbehind : member.1 < key :=
      (List.le_iff_lt_or_eq.1 (List.not_lt.1 hbefore)).resolve_right (Ne.symm hsame)
    rcases ih hmembers with ⟨inserted, hemplace, hinserted, hperm⟩ | ⟨same, hemplace, hmem⟩
    · rw [hemplace]
      refine .inl ⟨member :: inserted, rfl, List.pairwise_cons.2 ⟨?_, hinserted⟩, ?_⟩
      · intro other hother
        rcases List.mem_cons.1 (hperm.mem_iff.1 hother) with rfl | hother
        · exact hbehind
        · exact hfirst other hother
      · exact (hperm.cons member).trans (List.Perm.swap _ _ _)
    · rw [hemplace]
      exact .inr ⟨member :: same, rfl, List.mem_cons_of_mem _ hmem⟩

/-- A map is determined by its members, whatever their order in the text. -/
theorem Ordered.eq_of_perm {object other : List (List UInt8 × JsonValue)} (h : Ordered object)
    (hother : Ordered other) (hperm : object.Perm other) : object = other :=
  List.Perm.eq_of_pairwise
    (fun _ _ _ _ hlt hgt => absurd (List.lt_trans hlt hgt) (List.lt_irrefl _))
    h hother hperm

/-- A map has no key twice. -/
theorem Ordered.nodup {object : List (List UInt8 × JsonValue)} (h : Ordered object) :
    (object.map Prod.fst).Nodup := by
  refine List.pairwise_map.2 (List.Pairwise.imp ?_ h)
  intro first second hlt heq
  rw [heq] at hlt
  exact List.lt_irrefl _ hlt

/-- A member that belongs to the whole map is new to a part of it. -/
theorem emplace_of_perm {key : List UInt8} {value : JsonValue}
    {object members final : List (List UInt8 × JsonValue)} (hordered : Ordered object)
    (hfinal : Ordered final) (hperm : final.Perm (object ++ (key, value) :: members)) :
    ∃ inserted, emplace key value object = (true, inserted) ∧ Ordered inserted ∧
      final.Perm (inserted ++ members) := by
  rcases emplace_cases key value hordered with
    ⟨inserted, hemplace, hinserted, hnew⟩ | ⟨_, _, hmem⟩
  · refine ⟨inserted, hemplace, hinserted, hperm.trans ?_⟩
    exact List.perm_middle.trans (hnew.symm.append_right members)
  · have hnodup := (hperm.map Prod.fst).nodup_iff.1 hfinal.nodup
    rw [List.map_append, List.map_cons] at hnodup
    exact absurd List.mem_cons_self (List.disjoint_of_nodup_append hnodup hmem)

/-! ## One call of each function -/

/-- The loop of `parse_array` returns from an element that the bracket closes, or goes on behind a
comma. -/
theorem arrayLoop_eq_ok_iff {fuel : ℕ} {array : List JsonValue} {cursor behind : Cursor}
    {result : JsonValue} :
    arrayLoop (fuel + 1) array cursor = .ok (result, behind) ↔
      ∃ value after, parseValue fuel cursor.skipSpace = .ok (value, after) ∧
        (Between after.skipSpace [closeBracket] behind ∧ result = .array (array ++ [value]) ∨
          ∃ next, Between after.skipSpace [comma] next ∧
            arrayLoop fuel (array ++ [value]) next = .ok (result, behind)) := by
  rw [arrayLoop]
  constructor
  -- The loop returns with the bracket, or with what comes behind the comma.
  · intro h
    cases hvalue : parseValue fuel cursor.skipSpace with
    | error exception => simp [hvalue] at h
    | ok outcome =>
      obtain ⟨value, after⟩ := outcome
      rw [hvalue] at h
      dsimp only at h
      refine ⟨value, after, rfl, ?_⟩
      cases hclose : after.skipSpace.consume closeBracket with
      | some closed =>
        rw [hclose] at h
        obtain ⟨rfl, rfl⟩ := Prod.mk.inj (Except.ok.inj h)
        exact .inl ⟨consume_eq_some_iff.1 hclose, rfl⟩
      | none =>
        rw [hclose] at h
        dsimp only at h
        cases hcomma : after.skipSpace.consume comma with
        | some next =>
          rw [hcomma] at h
          exact .inr ⟨next, consume_eq_some_iff.1 hcomma, h⟩
        | none => simp [hcomma, Cursor.fail] at h
  -- Both ways are the steps of the loop.
  · rintro ⟨value, after, hvalue, ⟨hclose, rfl⟩ | ⟨next, hcomma, h⟩⟩
    · rw [hvalue]
      dsimp only
      rw [consume_eq_some_iff.2 hclose]
    · rw [hvalue]
      dsimp only
      rw [consume_eq_none hcomma.rest (by decide), consume_eq_some_iff.2 hcomma]
      exact h

/-- The loop of `parse_object` returns from a member that the brace closes, or goes on behind a
comma. -/
theorem objectLoop_eq_ok_iff {fuel : ℕ} {object : List (List UInt8 × JsonValue)}
    {cursor behind : Cursor} {result : JsonValue} :
    objectLoop (fuel + 1) object cursor = .ok (result, behind) ↔
      ∃ key named between value after inserted,
        parseString cursor.skipSpace = .ok (key, named) ∧
        Between named.skipSpace [colon] between ∧
        parseValue fuel between.skipSpace = .ok (value, after) ∧
        emplace key value object = (true, inserted) ∧
        (Between after.skipSpace [closeBrace] behind ∧ result = .object inserted ∨
          ∃ next, Between after.skipSpace [comma] next ∧
            objectLoop fuel inserted next = .ok (result, behind)) := by
  rw [objectLoop]
  constructor
  -- Each step of the loop that succeeds gives one part of the member, and its failures do not
  -- return.
  · intro h
    dsimp only at h
    split_ifs at h with hquote
    · simp [Cursor.fail] at h
    cases hkey : parseString cursor.skipSpace with
    | error exception => simp [hkey] at h
    | ok outcome =>
      obtain ⟨key, named⟩ := outcome
      rw [hkey] at h
      dsimp only at h
      cases hcolon : named.skipSpace.consume colon with
      | none => simp [hcolon, Cursor.fail] at h
      | some between =>
        rw [hcolon] at h
        dsimp only at h
        cases hvalue : parseValue fuel between.skipSpace with
        | error exception => simp [hvalue] at h
        | ok outcome =>
          obtain ⟨value, after⟩ := outcome
          rw [hvalue] at h
          dsimp only at h
          cases hemplace : emplace key value object with
          | mk fresh inserted =>
            rw [hemplace] at h
            cases fresh with
            | false => simp [Cursor.fail] at h
            | true =>
              dsimp only at h
              refine ⟨key, named, between, value, after, inserted, rfl,
                consume_eq_some_iff.1 hcolon, hvalue, hemplace, ?_⟩
              cases hclose : after.skipSpace.consume closeBrace with
              | some closed =>
                rw [hclose] at h
                obtain ⟨rfl, rfl⟩ := Prod.mk.inj (Except.ok.inj h)
                exact .inl ⟨consume_eq_some_iff.1 hclose, rfl⟩
              | none =>
                rw [hclose] at h
                dsimp only at h
                cases hcomma : after.skipSpace.consume comma with
                | some next =>
                  rw [hcomma] at h
                  exact .inr ⟨next, consume_eq_some_iff.1 hcomma, h⟩
                | none => simp [hcomma, Cursor.fail] at h
  -- The parts of the member let the same steps succeed.
  · rintro ⟨key, named, between, value, after, inserted, hkey, hcolon, hvalue, hemplace, hrest⟩
    obtain ⟨_, _, hquote⟩ := parseString_eq_ok_iff.1 hkey
    dsimp only
    rw [if_neg (by rw [hquote.rest]; simp), hkey]
    dsimp only
    rw [consume_eq_some_iff.2 hcolon]
    dsimp only
    rw [hvalue]
    dsimp only
    rw [hemplace]
    dsimp only
    rcases hrest with ⟨hclose, rfl⟩ | ⟨next, hcomma, h⟩
    · rw [consume_eq_some_iff.2 hclose]
    · rw [consume_eq_none hcomma.rest (by decide), consume_eq_some_iff.2 hcomma]
      exact h

/-- A cursor moves over the byte at it. -/
theorem between_one {cursor : Cursor} {byte : UInt8} {rest : List UInt8}
    (hrest : cursor.rest = byte :: rest) : Between cursor [byte] (cursor.advance 1) := by
  refine ⟨?_, rfl⟩
  rw [Cursor.advance, hrest]
  rfl

/-- The blanks in front of a text and the text are one. -/
theorem between_of_skipSpace {cursor behind : Cursor} {text : List UInt8}
    (h : Between cursor.skipSpace text behind) :
    ∃ blank, Blank isSpace blank ∧ Between cursor (blank ++ text) behind := by
  obtain ⟨blank, hblank, hskip⟩ := between_skipSpace cursor
  exact ⟨blank, hblank, hskip.trans h⟩

/-! ## What returns has the text of its phrase behind it -/

/-- `parse_value` that returns has the text of the value behind it. -/
def ValueSound (fuel : ℕ) : Prop :=
  ∀ cursor behind value, parseValue fuel cursor = .ok (value, behind) →
    ∃ text, Derives isSpace (.value value) text ∧ Between cursor text behind

/-- The loop of `parse_array` that returns has the text of the elements and a bracket behind it. -/
def ArraySound (fuel : ℕ) : Prop :=
  ∀ array cursor behind value, arrayLoop fuel array cursor = .ok (value, behind) →
    ∃ elements text, value = .array (array ++ elements) ∧
      Derives isSpace (.elements elements) text ∧ Between cursor (text ++ [closeBracket]) behind

/-- The loop of `parse_object` that returns has the text of the members and a brace behind it. -/
def ObjectSound (fuel : ℕ) : Prop :=
  ∀ object cursor behind value, Ordered object →
    objectLoop fuel object cursor = .ok (value, behind) →
    ∃ members text final, value = .object final ∧ Ordered final ∧ final.Perm (object ++ members) ∧
      Derives isSpace (.members members) text ∧ Between cursor (text ++ [closeBrace]) behind

/-- One call more of the loop of `parse_array`. -/
theorem ArraySound.succ {fuel : ℕ} (hvalue : ValueSound fuel) (harray : ArraySound fuel) :
    ArraySound (fuel + 1) := by
  intro array cursor behind result h
  obtain ⟨value, after, hparse, hrest⟩ := arrayLoop_eq_ok_iff.1 h
  obtain ⟨text, htext, hbetween⟩ := hvalue _ _ _ hparse
  obtain ⟨before, hbefore, hbetween⟩ := between_of_skipSpace hbetween
  rcases hrest with ⟨hclose, rfl⟩ | ⟨next, hcomma, hloop⟩
  · obtain ⟨blank, hblank, hclose⟩ := between_of_skipSpace hclose
    refine ⟨[value], _, rfl, .lastElement hbefore htext hblank, ?_⟩
    have hwhole := hbetween.trans hclose
    simpa only [List.append_assoc] using hwhole
  · obtain ⟨blank, hblank, hcomma⟩ := between_of_skipSpace hcomma
    obtain ⟨elements, more, rfl, hmore, hend⟩ := harray _ _ _ _ hloop
    refine ⟨value :: elements, _, ?_, .element hbefore htext hblank hmore, ?_⟩
    · rw [List.append_assoc]
      rfl
    · have hwhole := hbetween.trans (hcomma.trans hend)
      simpa only [List.append_assoc, List.cons_append, List.nil_append] using hwhole

/-- One call more of the loop of `parse_object`. -/
theorem ObjectSound.succ {fuel : ℕ} (hvalue : ValueSound fuel) (hobject : ObjectSound fuel) :
    ObjectSound (fuel + 1) := by
  intro object cursor behind result hordered h
  obtain ⟨key, named, between, value, after, inserted, hkey, hcolon, hparse, hemplace, hrest⟩ :=
    objectLoop_eq_ok_iff.1 h
  obtain ⟨keyText, hkeyText, hbetween⟩ := parseString_eq_ok_iff.1 hkey
  obtain ⟨before, hbefore, hbetween⟩ := between_of_skipSpace hbetween
  obtain ⟨beforeColon, hbeforeColon, hcolon⟩ := between_of_skipSpace hcolon
  obtain ⟨text, htext, hvalueText⟩ := hvalue _ _ _ hparse
  obtain ⟨behindColon, hbehindColon, hvalueText⟩ := between_of_skipSpace hvalueText
  -- What stands up to the end of the value.
  have hfront := hbetween.trans (hcolon.trans hvalueText)
  obtain ⟨hinserted, hperm⟩ : Ordered inserted ∧ inserted.Perm ((key, value) :: object) := by
    rcases emplace_cases key value hordered with
      ⟨other, hother, hinserted, hperm⟩ | ⟨other, hother, _⟩
    · obtain ⟨_, rfl⟩ := Prod.mk.inj (hemplace.symm.trans hother)
      exact ⟨hinserted, hperm⟩
    · exact nomatch (Prod.mk.inj (hemplace.symm.trans hother)).1
  rcases hrest with ⟨hclose, rfl⟩ | ⟨next, hcomma, hloop⟩
  · obtain ⟨blank, hblank, hclose⟩ := between_of_skipSpace hclose
    refine ⟨[(key, value)], _, inserted, rfl, hinserted, ?_,
      .lastMember hbefore hkeyText hbeforeColon hbehindColon htext hblank, ?_⟩
    · exact hperm.trans (List.perm_append_singleton _ _).symm
    · have hwhole := hfront.trans hclose
      simpa only [List.append_assoc, List.cons_append, List.nil_append] using hwhole
  · obtain ⟨blank, hblank, hcomma⟩ := between_of_skipSpace hcomma
    obtain ⟨members, more, final, rfl, hfinal, hfinalPerm, hmore, hend⟩ :=
      hobject _ _ _ _ hinserted hloop
    refine ⟨(key, value) :: members, _, final, rfl, hfinal, ?_,
      .member hbefore hkeyText hbeforeColon hbehindColon htext hblank hmore, ?_⟩
    · exact hfinalPerm.trans ((hperm.append_right members).trans List.perm_middle.symm)
    · have hwhole := hfront.trans (hcomma.trans hend)
      simpa only [List.append_assoc, List.cons_append, List.nil_append] using hwhole

/-- What begins with a brace is an object: at once closed, or read by its loop. -/
theorem ObjectSound.value {fuel : ℕ} (hobject : ObjectSound fuel) {cursor behind : Cursor}
    {rest : List UInt8} {value : JsonValue} (hrest : cursor.rest = openBrace :: rest)
    (h : parseValue (fuel + 1) cursor = .ok (value, behind)) :
    ∃ text, Derives isSpace (.value value) text ∧ Between cursor text behind := by
  have hone := between_one hrest
  rw [parseValue, hrest] at h
  dsimp only at h
  rw [if_pos rfl] at h
  cases hclose : (cursor.advance 1).skipSpace.consume closeBrace with
  | some closed =>
    rw [hclose] at h
    obtain ⟨rfl, rfl⟩ := Prod.mk.inj (Except.ok.inj h)
    obtain ⟨blank, hblank, hclose⟩ := between_of_skipSpace (consume_eq_some_iff.1 hclose)
    exact ⟨_, .emptyObject hblank, hone.trans hclose⟩
  | none =>
    rw [hclose] at h
    obtain ⟨members, text, final, rfl, hfinal, hperm, htext, hend⟩ :=
      hobject _ _ _ _ List.Pairwise.nil h
    obtain ⟨blank, hblank, hend⟩ := between_of_skipSpace hend
    refine ⟨_, .object (htext.blank_members hblank) hperm hfinal, ?_⟩
    rw [List.append_assoc]
    exact hone.trans hend

/-- What begins with a bracket is an array: at once closed, or read by its loop. -/
theorem ArraySound.value {fuel : ℕ} (harray : ArraySound fuel) {cursor behind : Cursor}
    {rest : List UInt8} {value : JsonValue} (hrest : cursor.rest = openBracket :: rest)
    (h : parseValue (fuel + 1) cursor = .ok (value, behind)) :
    ∃ text, Derives isSpace (.value value) text ∧ Between cursor text behind := by
  have hone := between_one hrest
  rw [parseValue, hrest] at h
  dsimp only at h
  rw [if_neg (by decide), if_pos rfl] at h
  cases hclose : (cursor.advance 1).skipSpace.consume closeBracket with
  | some closed =>
    rw [hclose] at h
    obtain ⟨rfl, rfl⟩ := Prod.mk.inj (Except.ok.inj h)
    obtain ⟨blank, hblank, hclose⟩ := between_of_skipSpace (consume_eq_some_iff.1 hclose)
    exact ⟨_, .emptyArray hblank, hone.trans hclose⟩
  | none =>
    rw [hclose] at h
    obtain ⟨elements, text, rfl, htext, hend⟩ := harray _ _ _ _ h
    obtain ⟨blank, hblank, hend⟩ := between_of_skipSpace hend
    refine ⟨_, .array (htext.blank_elements hblank), ?_⟩
    rw [List.append_assoc]
    exact hone.trans hend

/-- With one call more, `parse_value` is sound if the loops are with the calls left. -/
theorem ValueSound.succ {fuel : ℕ} (harray : ArraySound fuel) (hobject : ObjectSound fuel) :
    ValueSound (fuel + 1) := by
  intro cursor behind value h
  cases hrest : cursor.rest with
  | nil => simp [parseValue, hrest, Cursor.fail] at h
  | cons byte rest =>
    by_cases hbrace : byte = openBrace
    · exact hobject.value (hbrace ▸ hrest) h
    by_cases hbracket : byte = openBracket
    · exact harray.value (hbracket ▸ hrest) h
    rw [parseValue, hrest] at h
    dsimp only at h
    rw [if_neg hbrace, if_neg hbracket] at h
    -- A string is what `parse_string` reads.
    by_cases hquote : byte = quote
    · rw [if_pos hquote] at h
      cases hstring : parseString cursor with
      | error exception => simp [hstring] at h
      | ok outcome =>
        rw [hstring] at h
        obtain ⟨rfl, rfl⟩ := Prod.mk.inj (Except.ok.inj h)
        obtain ⟨text, htext, hbetween⟩ := parseString_eq_ok_iff.1 hstring
        exact ⟨_, .string htext, hbetween⟩
    rw [if_neg hquote] at h
    -- The three literals.
    by_cases htrue : byte = 0x74
    · rw [if_pos htrue] at h
      cases hliteral : expectLiteral trueText cursor with
      | error exception => simp [hliteral] at h
      | ok after =>
        rw [hliteral] at h
        obtain ⟨rfl, rfl⟩ := Prod.mk.inj (Except.ok.inj h)
        exact ⟨_, .boolTrue, expectLiteral_eq_ok_iff.1 hliteral⟩
    rw [if_neg htrue] at h
    by_cases hfalse : byte = 0x66
    · rw [if_pos hfalse] at h
      cases hliteral : expectLiteral falseText cursor with
      | error exception => simp [hliteral] at h
      | ok after =>
        rw [hliteral] at h
        obtain ⟨rfl, rfl⟩ := Prod.mk.inj (Except.ok.inj h)
        exact ⟨_, .boolFalse, expectLiteral_eq_ok_iff.1 hliteral⟩
    rw [if_neg hfalse] at h
    by_cases hnull : byte = 0x6E
    · rw [if_pos hnull] at h
      cases hliteral : expectLiteral nullText cursor with
      | error exception => simp [hliteral] at h
      | ok after =>
        rw [hliteral] at h
        obtain ⟨rfl, rfl⟩ := Prod.mk.inj (Except.ok.inj h)
        exact ⟨_, .null, expectLiteral_eq_ok_iff.1 hliteral⟩
    rw [if_neg hnull] at h
    -- Every other byte is left to `parse_integer`.
    obtain ⟨text, integer, rfl, hnumeral, hbetween⟩ := numeral_of_parseInteger h
    exact ⟨_, .integer hnumeral, hbetween⟩

/-- What returns has the text of its phrase behind it, however deep the calls are. -/
theorem derives_of_returns (fuel : ℕ) : ValueSound fuel ∧ ArraySound fuel ∧ ObjectSound fuel := by
  induction fuel with
  | zero =>
    refine ⟨?_, ?_, ?_⟩
    · intro cursor behind value h
      exact nomatch h
    · intro array cursor behind value h
      exact nomatch h
    · intro object cursor behind value _ h
      exact nomatch h
  | succ fuel ih =>
    obtain ⟨hvalue, harray, hobject⟩ := ih
    exact ⟨.succ harray hobject, .succ hvalue harray, .succ hvalue hobject⟩

/-! ## The text of a phrase is parsed -/

/-- The parser takes the text of the phrase: that of a value, where nothing continues it; that of
elements or members, where the bracket or the brace closes them. -/
def Parses : Phrase → List UInt8 → Prop
  | .value value, text =>
    ∀ fuel cursor behind, 2 * text.length < fuel → Between cursor text behind → Delimited behind →
      parseValue fuel cursor = .ok (value, behind)
  | .elements elements, text =>
    ∀ fuel array cursor behind, 2 * text.length + 1 < fuel →
      Between cursor (text ++ [closeBracket]) behind →
      arrayLoop fuel array cursor = .ok (.array (array ++ elements), behind)
  | .members members, text =>
    ∀ fuel object final cursor behind, 2 * text.length + 1 < fuel →
      Between cursor (text ++ [closeBrace]) behind → Ordered object → Ordered final →
      final.Perm (object ++ members) →
      objectLoop fuel object cursor = .ok (.object final, behind)

/-- The loop of `parse_array` begins with `skip_space`, which may have been called before. -/
theorem arrayLoop_skipSpace (fuel : ℕ) (array : List JsonValue) (cursor : Cursor) :
    arrayLoop (fuel + 1) array cursor.skipSpace = arrayLoop (fuel + 1) array cursor := by
  rw [arrayLoop, skipSpace_skipSpace, arrayLoop]

/-- So does the loop of `parse_object`. -/
theorem objectLoop_skipSpace (fuel : ℕ) (object : List (List UInt8 × JsonValue))
    (cursor : Cursor) :
    objectLoop (fuel + 1) object cursor.skipSpace = objectLoop (fuel + 1) object cursor := by
  rw [objectLoop, skipSpace_skipSpace, objectLoop]

/-- The parser takes the text of a value behind blanks. -/
theorem Parses.behind_blank {value : JsonValue} {text before : List UInt8}
    (h : Parses (.value value) text) (htext : Derives isSpace (.value value) text)
    (hbefore : Blank isSpace before) {fuel : ℕ} {cursor behind : Cursor}
    (hfuel : 2 * text.length < fuel) (hbetween : Between cursor (before ++ text) behind)
    (hdelimited : Delimited behind) :
    parseValue fuel cursor.skipSpace = .ok (value, behind) := by
  obtain ⟨start, hblank, hstart⟩ := hbetween.split
  obtain ⟨byte, rest, rfl, hbyte⟩ := htext.starts
  have hspace : ∀ byte ∈ Json.starts, ¬ isSpace byte := forall_mem (by decide)
  rw [skipSpace_eq hbefore hblank (atToken_of_rest hstart.rest (hspace byte hbyte))]
  exact h fuel start behind hfuel hstart hdelimited

/-- The last element and the closing bracket end the loop over the elements. -/
theorem Parses.lastElement {value : JsonValue} {before text after : List UInt8}
    (hbefore : Blank isSpace before) (htext : Derives isSpace (.value value) text)
    (hafter : Blank isSpace after) (h : Parses (.value value) text) :
    Parses (.elements [value]) (before ++ (text ++ after)) := by
  intro fuel array cursor behind hfuel hbetween
  obtain ⟨fuel, rfl⟩ := Nat.exists_eq_succ_of_ne_zero (by omega : fuel ≠ 0)
  simp only [List.length_append] at hfuel
  obtain ⟨closer, hbetween, hclose⟩ := hbetween.split
  rw [← List.append_assoc] at hbetween
  obtain ⟨last, hbetween, hblank⟩ := hbetween.split
  obtain ⟨hskip, hdelimited⟩ := at_closer hafter hblank hclose (by decide)
  refine arrayLoop_eq_ok_iff.2 ⟨value, last, ?_, .inl ⟨?_, rfl⟩⟩
  · exact h.behind_blank htext hbefore (by omega) hbetween hdelimited
  · rwa [hskip]

/-- An element and a comma have the loop over the elements go on. -/
theorem Parses.element {value : JsonValue} {elements : List JsonValue}
    {before text after rest : List UInt8} (hbefore : Blank isSpace before)
    (htext : Derives isSpace (.value value) text) (hafter : Blank isSpace after)
    (h : Parses (.value value) text) (hrest : Parses (.elements elements) rest) :
    Parses (.elements (value :: elements)) (before ++ (text ++ (after ++ comma :: rest))) := by
  intro fuel array cursor behind hfuel hbetween
  obtain ⟨fuel, rfl⟩ := Nat.exists_eq_succ_of_ne_zero (by omega : fuel ≠ 0)
  simp only [List.length_append, List.length_cons] at hfuel
  have hparts : before ++ (text ++ (after ++ comma :: rest)) ++ [closeBracket] =
      (before ++ text) ++ (after ++ ([comma] ++ (rest ++ [closeBracket]))) := by simp
  rw [hparts] at hbetween
  obtain ⟨last, hbetween, hmore⟩ := hbetween.split
  obtain ⟨closer, hblank, hmore⟩ := hmore.split
  obtain ⟨next, hcomma, hmore⟩ := hmore.split
  obtain ⟨hskip, hdelimited⟩ := at_closer hafter hblank hcomma (by decide)
  refine arrayLoop_eq_ok_iff.2 ⟨value, last, ?_, .inr ⟨next, ?_, ?_⟩⟩
  · exact h.behind_blank htext hbefore (by omega) hbetween hdelimited
  · rwa [hskip]
  · rw [hrest fuel (array ++ [value]) next behind (by omega) hmore, List.append_assoc]
    rfl

/-- A key, the colon and a value, up to the blanks behind the value. -/
theorem objectLoop_of_parts {key : List UInt8} {value result : JsonValue}
    {before keyText between behind text after : List UInt8}
    (hbefore : Blank isSpace before) (hkey : Chars keyText key) (hbetween : Blank isSpace between)
    (hbehind : Blank isSpace behind) (htext : Derives isSpace (.value value) text)
    (hafter : Blank isSpace after) (h : Parses (.value value) text)
    {fuel : ℕ} {object inserted : List (List UInt8 × JsonValue)}
    {cursor closer last final : Cursor} {close : UInt8}
    (hfuel : 2 * text.length < fuel)
    (hcursor : Between cursor
      (before ++ quote :: (keyText ++ quote :: (between ++ colon :: (behind ++ (text ++ after)))))
      closer)
    (hclose : Between closer [close] last) (hmem : close ∈ closers)
    (hemplace : emplace key value object = (true, inserted))
    (hrest : close = closeBrace ∧ last = final ∧ result = .object inserted ∨
      close = comma ∧ objectLoop fuel inserted last = .ok (result, final)) :
    objectLoop (fuel + 1) object cursor = .ok (result, final) := by
  have hparts : before ++ quote :: (keyText ++ quote :: (between ++ colon ::
        (behind ++ (text ++ after)))) =
      before ++ ((quote :: (keyText ++ [quote])) ++ (between ++ ([colon] ++
        ((behind ++ text) ++ after)))) := by simp
  rw [hparts] at hcursor
  obtain ⟨start, hblank, hcursor⟩ := hcursor.split
  obtain ⟨named, hname, hcursor⟩ := hcursor.split
  obtain ⟨beforeColon, hbeforeColon, hcursor⟩ := hcursor.split
  obtain ⟨behindColon, hcolon, hcursor⟩ := hcursor.split
  obtain ⟨ended, hvalue, hend⟩ := hcursor.split
  obtain ⟨hskip, hdelimited⟩ := at_closer hafter hend hclose hmem
  refine objectLoop_eq_ok_iff.2 ⟨key, named, behindColon, value, ended, inserted, ?_, ?_, ?_,
    hemplace, ?_⟩
  · rw [skipSpace_eq hbefore hblank (atToken_of_rest hname.rest (by decide))]
    exact parseString_eq_ok_iff.2 ⟨keyText, hkey, hname⟩
  · rwa [skipSpace_eq hbetween hbeforeColon (atToken_of_rest hcolon.rest (by decide))]
  · exact h.behind_blank htext hbehind hfuel hvalue hdelimited
  · rw [hskip]
    rcases hrest with ⟨rfl, rfl, rfl⟩ | ⟨rfl, hloop⟩
    · exact .inl ⟨hclose, rfl⟩
    · exact .inr ⟨last, hclose, hloop⟩

/-- A literal is parsed with any number of calls. -/
theorem Parses.literal {value : JsonValue} {literal : List UInt8}
    (hparse : ∀ fuel cursor behind, Between cursor literal behind →
      parseValue (fuel + 1) cursor = .ok (value, behind)) :
    Parses (.value value) literal := by
  intro fuel cursor behind hfuel hbetween _
  obtain ⟨fuel, rfl⟩ := Nat.exists_eq_succ_of_ne_zero (by omega : fuel ≠ 0)
  exact hparse fuel cursor behind hbetween

/-- An array is parsed if its elements are. -/
theorem Parses.array {elements : List JsonValue} {text : List UInt8}
    (htext : Derives isSpace (.elements elements) text) (h : Parses (.elements elements) text) :
    Parses (.value (.array elements)) (openBracket :: (text ++ [closeBracket])) := by
  intro fuel cursor behind hfuel hbetween _
  simp only [List.length_cons, List.length_append, List.length_nil] at hfuel
  obtain ⟨fuel, rfl⟩ : ∃ less, fuel = less + 1 + 1 := ⟨fuel - 2, by omega⟩
  have hne : ∀ byte ∈ Json.starts, ¬ isSpace byte ∧ byte ≠ closeBracket :=
    forall_mem (by decide)
  obtain ⟨inside, hopen, hinside⟩ := Between.uncons hbetween
  obtain ⟨before, byte, rest, hbefore, hstarts, hbyte⟩ := htext.elements_starts
  have hfirst := hinside
  rw [hstarts, List.append_assoc] at hfirst
  obtain ⟨start, hblank, hstart⟩ := hfirst.split
  -- The first element is no bracket.
  have hskip := skipSpace_eq hbefore hblank (atToken_of_rest hstart.rest (hne byte hbyte).1)
  have hadvance : cursor.advance 1 = inside := hopen.advance
  rw [parseValue, hopen.rest]
  dsimp only [List.cons_append]
  rw [if_neg (by decide), if_pos rfl, hadvance, hskip,
    consume_eq_none hstart.rest (hne byte hbyte).2, ← hskip]
  dsimp only
  rw [arrayLoop_skipSpace, h (fuel + 1) [] inside behind (by omega) hinside]
  rfl

/-- An object is parsed if its members are. -/
theorem Parses.object {members object : List (List UInt8 × JsonValue)} {text : List UInt8}
    (htext : Derives isSpace (.members members) text) (hperm : object.Perm members)
    (hordered : Ordered object) (h : Parses (.members members) text) :
    Parses (.value (.object object)) (openBrace :: (text ++ [closeBrace])) := by
  intro fuel cursor behind hfuel hbetween _
  simp only [List.length_cons, List.length_append, List.length_nil] at hfuel
  obtain ⟨fuel, rfl⟩ : ∃ less, fuel = less + 1 + 1 := ⟨fuel - 2, by omega⟩
  obtain ⟨inside, hopen, hinside⟩ := Between.uncons hbetween
  obtain ⟨before, rest, hbefore, hstarts⟩ := htext.members_starts
  have hfirst := hinside
  rw [hstarts, List.append_assoc] at hfirst
  obtain ⟨start, hblank, hstart⟩ := hfirst.split
  have hskip := skipSpace_eq hbefore hblank (atToken_of_rest hstart.rest (by decide))
  have hadvance : cursor.advance 1 = inside := hopen.advance
  rw [parseValue, hopen.rest]
  dsimp only [List.cons_append]
  rw [if_pos rfl, hadvance, hskip, consume_eq_none hstart.rest (by decide), ← hskip]
  dsimp only
  rw [objectLoop_skipSpace]
  exact h (fuel + 1) [] object inside behind (by omega) hinside List.Pairwise.nil hordered hperm

/-- An integer is what no other value begins with. -/
theorem Parses.integer {value : UInt64} {text : List UInt8} (hnumeral : Numeral text value) :
    Parses (.value (.integer value)) text := by
  intro fuel cursor behind hfuel hbetween hdelimited
  obtain ⟨fuel, rfl⟩ := Nat.exists_eq_succ_of_ne_zero (by omega : fuel ≠ 0)
  obtain ⟨first, more, rfl⟩ := List.exists_cons_of_ne_nil hnumeral.nonempty
  have hne := forall_byte (P := fun byte => isDigit byte → byte ≠ openBrace ∧
    byte ≠ openBracket ∧ byte ≠ quote ∧ byte ≠ 0x74 ∧ byte ≠ 0x66 ∧ byte ≠ 0x6E)
    (by decide +kernel) first (hnumeral.digits first List.mem_cons_self)
  obtain ⟨hbrace, hbracket, hquote, htrue, hfalse, hnull⟩ := hne
  rw [parseValue, hbetween.rest]
  dsimp only [List.cons_append]
  rw [if_neg hbrace, if_neg hbracket, if_neg hquote, if_neg htrue, if_neg hfalse, if_neg hnull]
  exact hnumeral.parseInteger hbetween hdelimited

/-- Behind the opening bracket there are blanks up to the closing one. -/
theorem Parses.emptyArray {blank : List UInt8} (hblank : Blank isSpace blank) :
    Parses (.value (.array [])) (openBracket :: (blank ++ [closeBracket])) := by
  refine .literal fun fuel cursor behind hbetween => ?_
  obtain ⟨inside, hopen, hinside⟩ := Between.uncons hbetween
  obtain ⟨closer, hinside, hclose⟩ := hinside.split
  have hadvance : cursor.advance 1 = inside := hopen.advance
  rw [parseValue, hopen.rest]
  dsimp only [List.cons_append]
  rw [if_neg (by decide), if_pos rfl, hadvance, (at_closer hblank hinside hclose (by decide)).1,
    consume_eq_some_iff.2 hclose]

/-- Behind the opening brace there are blanks up to the closing one. -/
theorem Parses.emptyObject {blank : List UInt8} (hblank : Blank isSpace blank) :
    Parses (.value (.object [])) (openBrace :: (blank ++ [closeBrace])) := by
  refine .literal fun fuel cursor behind hbetween => ?_
  obtain ⟨inside, hopen, hinside⟩ := Between.uncons hbetween
  obtain ⟨closer, hinside, hclose⟩ := hinside.split
  have hadvance : cursor.advance 1 = inside := hopen.advance
  rw [parseValue, hopen.rest]
  dsimp only [List.cons_append]
  rw [if_pos rfl, hadvance, (at_closer hblank hinside hclose (by decide)).1,
    consume_eq_some_iff.2 hclose]

/-- The loop over the members puts the last one into the object and finds the brace. -/
theorem Parses.lastMember {key : List UInt8} {value : JsonValue}
    {before keyText between behind text after : List UInt8}
    (hbefore : Blank isSpace before) (hkey : Chars keyText key) (hbetween : Blank isSpace between)
    (hbehind : Blank isSpace behind) (htext : Derives isSpace (.value value) text)
    (hafter : Blank isSpace after) (h : Parses (.value value) text) :
    Parses (.members [(key, value)]) (before ++ quote :: (keyText ++ quote ::
      (between ++ colon :: (behind ++ (text ++ after))))) := by
  intro fuel object final cursor last hfuel hcursor hobject hfinal hperm
  obtain ⟨fuel, rfl⟩ := Nat.exists_eq_succ_of_ne_zero (by omega : fuel ≠ 0)
  simp only [List.length_append, List.length_cons] at hfuel
  obtain ⟨closer, hcursor, hclose⟩ := hcursor.split
  obtain ⟨inserted, hemplace, hinserted, hsame⟩ := emplace_of_perm hobject hfinal hperm
  rw [List.append_nil] at hsame
  refine objectLoop_of_parts hbefore hkey hbetween hbehind htext hafter h (by omega) hcursor
    hclose (by decide) hemplace (.inl ⟨rfl, rfl, ?_⟩)
  rw [hfinal.eq_of_perm hinserted hsame]

/-- A member and a comma have the loop over the members go on. -/
theorem Parses.member {key : List UInt8} {value : JsonValue}
    {members : List (List UInt8 × JsonValue)}
    {before keyText between behind text after rest : List UInt8}
    (hbefore : Blank isSpace before) (hkey : Chars keyText key) (hbetween : Blank isSpace between)
    (hbehind : Blank isSpace behind) (htext : Derives isSpace (.value value) text)
    (hafter : Blank isSpace after) (h : Parses (.value value) text)
    (hrest : Parses (.members members) rest) :
    Parses (.members ((key, value) :: members)) (before ++ quote :: (keyText ++ quote ::
      (between ++ colon :: (behind ++ (text ++ (after ++ comma :: rest)))))) := by
  intro fuel object final cursor last hfuel hcursor hobject hfinal hperm
  obtain ⟨fuel, rfl⟩ := Nat.exists_eq_succ_of_ne_zero (by omega : fuel ≠ 0)
  simp only [List.length_append, List.length_cons] at hfuel
  -- The text up to the comma is this member, and the rest is left to the loop.
  have hparts : before ++ quote :: (keyText ++ quote :: (between ++ colon :: (behind ++
        (text ++ (after ++ comma :: rest))))) ++ [closeBrace] =
      (before ++ quote :: (keyText ++ quote :: (between ++ colon :: (behind ++
        (text ++ after))))) ++ ([comma] ++ (rest ++ [closeBrace])) := by simp
  rw [hparts] at hcursor
  obtain ⟨closer, hcursor, hmore⟩ := hcursor.split
  obtain ⟨next, hcomma, hmore⟩ := hmore.split
  obtain ⟨inserted, hemplace, hinserted, hsame⟩ := emplace_of_perm hobject hfinal hperm
  refine objectLoop_of_parts hbefore hkey hbetween hbehind htext hafter h (by omega) hcursor
    hcomma (by decide) hemplace (.inr ⟨rfl, ?_⟩)
  exact hrest fuel inserted final next last (by omega) hmore hinserted hfinal hsame

/-- The parser takes the text of every phrase. -/
theorem Derives.parses {phrase : Phrase} {text : List UInt8} (h : Derives isSpace phrase text) :
    Parses phrase text := by
  induction h with
  | null =>
    -- The first byte selects the literal, so that the branches before it are passed over.
    refine .literal fun fuel cursor behind hbetween => ?_
    have hrest : cursor.rest = 0x6E :: (nullText.tail ++ behind.rest) := hbetween.rest
    rw [parseValue, hrest]
    dsimp only
    rw [if_neg (by decide), if_neg (by decide), if_neg (by decide), if_neg (by decide),
      if_neg (by decide), if_pos rfl, expectLiteral_eq_ok_iff.2 hbetween]
  | boolTrue =>
    refine .literal fun fuel cursor behind hbetween => ?_
    have hrest : cursor.rest = 0x74 :: (trueText.tail ++ behind.rest) := hbetween.rest
    rw [parseValue, hrest]
    dsimp only
    rw [if_neg (by decide), if_neg (by decide), if_neg (by decide), if_pos rfl,
      expectLiteral_eq_ok_iff.2 hbetween]
  | boolFalse =>
    refine .literal fun fuel cursor behind hbetween => ?_
    have hrest : cursor.rest = 0x66 :: (falseText.tail ++ behind.rest) := hbetween.rest
    rw [parseValue, hrest]
    dsimp only
    rw [if_neg (by decide), if_neg (by decide), if_neg (by decide), if_neg (by decide), if_pos rfl,
      expectLiteral_eq_ok_iff.2 hbetween]
  | integer hnumeral => exact .integer hnumeral
  | string htext =>
    refine .literal fun fuel cursor behind hbetween => ?_
    rw [parseValue, hbetween.rest]
    dsimp only [List.cons_append]
    rw [if_neg (by decide), if_neg (by decide), if_pos rfl,
      parseString_eq_ok_iff.2 ⟨_, htext, hbetween⟩]
  | emptyArray hblank => exact .emptyArray hblank
  | array htext ih => exact .array htext ih
  | emptyObject hblank => exact .emptyObject hblank
  | object htext hperm hordered ih => exact .object htext hperm hordered ih
  | lastElement hbefore htext hafter ih => exact .lastElement hbefore htext hafter ih
  | element hbefore htext hafter _ ih ihrest => exact .element hbefore htext hafter ih ihrest
  | lastMember hbefore hkey hbetween hbehind htext hafter ih =>
    exact .lastMember hbefore hkey hbetween hbehind htext hafter ih
  | member hbefore hkey hbetween hbehind htext hafter _ ih ihrest =>
    exact .member hbefore hkey hbetween hbehind htext hafter ih ihrest

/-! ## The depth of the calls -/

/-- What is left behind a text. -/
theorem Between.length {cursor behind : Cursor} {text : List UInt8}
    (h : Between cursor text behind) :
    cursor.rest.length = text.length + behind.rest.length := by
  rw [h.rest, List.length_append]

/-- `skip_space` adds nothing to what is left. -/
theorem length_skipSpace_le (cursor : Cursor) :
    cursor.skipSpace.rest.length ≤ cursor.rest.length := by
  obtain ⟨blank, _, hbetween⟩ := between_skipSpace cursor
  have hlength := hbetween.length
  omega

/-- Behind a value there is less left. -/
theorem length_lt_of_parseValue {fuel : ℕ} {cursor behind : Cursor} {value : JsonValue}
    (h : parseValue fuel cursor = .ok (value, behind)) :
    behind.rest.length < cursor.rest.length := by
  obtain ⟨text, htext, hbetween⟩ := (derives_of_returns fuel).1 _ _ _ h
  obtain ⟨byte, rest, rfl, _⟩ := htext.starts
  have hlength := hbetween.length
  rw [List.length_cons] at hlength
  omega

/-- Behind a string there is less left. -/
theorem length_lt_of_parseString {cursor behind : Cursor} {string : List UInt8}
    (h : parseString cursor = .ok (string, behind)) :
    behind.rest.length < cursor.rest.length := by
  obtain ⟨text, _, hbetween⟩ := parseString_eq_ok_iff.1 h
  have hlength := hbetween.length
  rw [List.length_cons] at hlength
  omega

/-- Behind a byte there is one less left. -/
theorem length_of_consume {cursor behind : Cursor} {expected : UInt8}
    (h : cursor.consume expected = some behind) :
    cursor.rest.length = 1 + behind.rest.length :=
  (consume_eq_some_iff.1 h).length

/-! ## The calls that an input needs -/

/-- An outcome of the source: a value, or an exception with a text. Only a call for which none are
left has an exception without one. -/
def Ends {α : Type} (outcome : Except JsonException α) : Prop :=
  ∀ exception, outcome = .error exception → exception.message ≠ ""

namespace Ends

variable {α β : Type} {cursor : Cursor} {exception : JsonException}

/-- A value is an outcome, and not the end of the calls. -/
theorem ok (value : α) : Ends (.ok value : Except JsonException α) := by
  intro exception h
  cases h

/-- An exception with a text is an outcome. -/
theorem text {message : String} {position : ℕ} (h : message ≠ "") :
    Ends (.error ⟨message, position⟩ : Except JsonException α) := by
  intro exception hexception
  rw [← Except.error.inj hexception]
  exact h

/-- `fail` has an outcome, if it is given a text. -/
theorem fail {message : String} (h : message ≠ "") : Ends (cursor.fail message : Except _ α) :=
  text h

/-- The exception of a part is that of the whole. -/
theorem error {outcome : Except JsonException α} (h : Ends outcome)
    (hpart : outcome = .error exception) : Ends (.error exception : Except JsonException β) := by
  intro exception' hexception
  rw [← Except.error.inj hexception]
  exact h exception hpart

/-- `expect_literal` never runs out of calls. -/
theorem expectLiteral (literal : List UInt8) (cursor : Cursor) :
    Ends (Json.expectLiteral literal cursor) := by
  unfold Json.expectLiteral
  split
  · exact fail (by decide)
  · exact ok _

/-- The loop of `parse_hex4` has an outcome. -/
theorem hexLoop (position : ℕ) (value : UInt32) (digits : List UInt8) :
    Ends (Json.hexLoop position value digits) := by
  induction digits generalizing position value with
  | nil => exact ok _
  | cons digit digits ih =>
    unfold Json.hexLoop
    split
    · exact text (by decide)
    · exact ih _ _

/-- The loop of `parse_string` has an outcome: it takes a byte at least with every turn. -/
theorem stringLoop (position : ℕ) (output rest : List UInt8) :
    Ends (Json.stringLoop position output rest) := by
  fun_induction Json.stringLoop position output rest with
  | case1 => exact text (by decide)
  | case2 => exact ok _
  | case3 => exact text (by decide)
  | case4 _ _ _ _ _ _ _ ih => exact ih
  | case5 => exact text (by decide)
  | case6 _ _ _ _ _ _ _ _ _ _ ih => exact ih
  | case7 => exact text (by decide)
  | case8 _ _ _ _ _ _ _ _ _ _ _ _ _ _ _ hcode => exact (hexLoop _ _ _).error hcode
  | case9 => exact text (by decide)
  | case10 _ _ _ _ _ _ _ _ _ _ _ _ _ _ _ _ _ ih => exact ih
  | case11 => exact text (by decide)

/-- `parse_string` never runs out of calls. -/
theorem parseString (cursor : Cursor) : Ends (Json.parseString cursor) := by
  unfold Json.parseString
  split
  · exact fail (by decide)
  · split
    · exact fail (by decide)
    · exact stringLoop _ _ _

/-- The part of `parse_integer` behind the digits has an outcome. -/
theorem finishInteger (digits : List UInt8) (cursor : Cursor) :
    Ends (Json.finishInteger digits cursor) := by
  unfold Json.finishInteger
  split
  · exact fail (by decide)
  · split
    · exact fail (by decide)
    · exact ok _

/-- `parse_integer` never runs out of calls. -/
theorem parseInteger (cursor : Cursor) : Ends (Json.parseInteger cursor) := by
  unfold Json.parseInteger
  split
  · exact fail (by decide)
  · split
    · split
      · exact fail (by decide)
      · exact finishInteger _ _
    · split
      · exact finishInteger _ _
      · exact fail (by decide)

end Ends

/-- Calls that are enough: one more makes no difference, and there is an outcome. -/
def Suffices {α : Type} (call : ℕ → Except JsonException α) (fuel : ℕ) : Prop :=
  call (fuel + 1) = call fuel ∧ Ends (call fuel)

/-- `parse_value` is done with its calls, if those of its loops are enough. -/
theorem parseValue_suffices {fuel : ℕ} {cursor : Cursor}
    (harray : ∀ behind : Cursor, behind.rest.length < cursor.rest.length →
      Suffices (arrayLoop · [] behind) fuel)
    (hobject : ∀ behind : Cursor, behind.rest.length < cursor.rest.length →
      Suffices (objectLoop · [] behind) fuel) : Suffices (parseValue · cursor) (fuel + 1) := by
  unfold Suffices
  dsimp only
  rw [parseValue, parseValue]
  cases hrest : cursor.rest with
  | nil => exact ⟨rfl, .fail (by decide)⟩
  | cons byte rest =>
    -- Behind a bracket or a brace one byte less is left.
    have hone := (between_one hrest).length
    have hskip := length_skipSpace_le (cursor.advance 1)
    rw [List.length_singleton] at hone
    obtain ⟨harray, harrayEnds⟩ := harray (cursor.advance 1).skipSpace (by omega)
    obtain ⟨hobject, hobjectEnds⟩ := hobject (cursor.advance 1).skipSpace (by omega)
    dsimp only at harray hobject harrayEnds hobjectEnds ⊢
    rw [harray, hobject]
    refine ⟨rfl, ?_⟩
    -- The byte says what is parsed.
    split
    · cases (cursor.advance 1).skipSpace.consume closeBrace with
      | some behind => exact .ok _
      | none => exact hobjectEnds
    split
    · cases (cursor.advance 1).skipSpace.consume closeBracket with
      | some behind => exact .ok _
      | none => exact harrayEnds
    split
    · cases hstring : parseString cursor with
      | error exception => exact (Ends.parseString cursor).error hstring
      | ok outcome => exact .ok _
    split
    · cases hliteral : expectLiteral trueText cursor with
      | error exception => exact (Ends.expectLiteral _ cursor).error hliteral
      | ok behind => exact .ok _
    split
    · cases hliteral : expectLiteral falseText cursor with
      | error exception => exact (Ends.expectLiteral _ cursor).error hliteral
      | ok behind => exact .ok _
    split
    · cases hliteral : expectLiteral nullText cursor with
      | error exception => exact (Ends.expectLiteral _ cursor).error hliteral
      | ok behind => exact .ok _
    · exact .parseInteger cursor

/-- The loop of `parse_array` is done with its calls, if those for the element and for what follows
behind a comma are enough. -/
theorem arrayLoop_suffices {fuel : ℕ} {array : List JsonValue} {cursor : Cursor}
    (hvalue : ∀ behind : Cursor, behind.rest.length ≤ cursor.rest.length →
      Suffices (parseValue · behind) fuel)
    (harray : ∀ array, ∀ behind : Cursor, behind.rest.length + 1 < cursor.rest.length →
      Suffices (arrayLoop · array behind) fuel) :
    Suffices (arrayLoop · array cursor) (fuel + 1) := by
  have hskip := length_skipSpace_le cursor
  obtain ⟨hmore, hends⟩ := hvalue cursor.skipSpace hskip
  unfold Suffices
  dsimp only at hmore hends ⊢
  rw [arrayLoop, arrayLoop, hmore]
  cases hparse : parseValue fuel cursor.skipSpace with
  | error exception => exact ⟨rfl, hends.error hparse⟩
  | ok outcome =>
    obtain ⟨value, after⟩ := outcome
    have hafter := length_lt_of_parseValue hparse
    have hblank := length_skipSpace_le after
    dsimp only
    cases after.skipSpace.consume closeBracket with
    | some closed => exact ⟨rfl, .ok _⟩
    | none =>
      cases hcomma : after.skipSpace.consume comma with
      | none => exact ⟨rfl, .fail (by decide)⟩
      | some next =>
        have hnext := length_of_consume hcomma
        exact harray _ next (by omega)

/-- The loop of `parse_object` is done with its calls, if those for the value and for what follows
behind a comma are enough. -/
theorem objectLoop_suffices {fuel : ℕ} {object : List (List UInt8 × JsonValue)} {cursor : Cursor}
    (hvalue : ∀ behind : Cursor, behind.rest.length ≤ cursor.rest.length →
      Suffices (parseValue · behind) fuel)
    (hobject : ∀ object, ∀ behind : Cursor, behind.rest.length + 1 < cursor.rest.length →
      Suffices (objectLoop · object behind) fuel) :
    Suffices (objectLoop · object cursor) (fuel + 1) := by
  have hskip := length_skipSpace_le cursor
  unfold Suffices
  dsimp only
  rw [objectLoop, objectLoop]
  dsimp only
  by_cases hquote : cursor.skipSpace.rest.head? ≠ some quote
  · rw [if_pos hquote, if_pos hquote]
    exact ⟨rfl, .fail (by decide)⟩
  rw [if_neg hquote, if_neg hquote]
  -- The key and the colon behind it.
  cases hkey : parseString cursor.skipSpace with
  | error exception => exact ⟨rfl, (Ends.parseString _).error hkey⟩
  | ok outcome =>
    obtain ⟨key, named⟩ := outcome
    have hnamed := length_lt_of_parseString hkey
    have hbefore := length_skipSpace_le named
    dsimp only
    cases hcolon : named.skipSpace.consume colon with
    | none => exact ⟨rfl, .fail (by decide)⟩
    | some between =>
      have hbetween := length_of_consume hcolon
      have hbehind := length_skipSpace_le between
      -- The value, and the comma or the brace behind it.
      obtain ⟨hmore, hends⟩ := hvalue between.skipSpace (by omega)
      dsimp only at hmore hends ⊢
      rw [hmore]
      cases hparse : parseValue fuel between.skipSpace with
      | error exception => exact ⟨rfl, hends.error hparse⟩
      | ok outcome =>
        obtain ⟨value, after⟩ := outcome
        have hafter := length_lt_of_parseValue hparse
        have hblank := length_skipSpace_le after
        dsimp only
        cases emplace key value object with
        | mk fresh inserted =>
          cases fresh with
          | false => exact ⟨rfl, .fail (by decide)⟩
          | true =>
            dsimp only
            cases after.skipSpace.consume closeBrace with
            | some closed => exact ⟨rfl, .ok _⟩
            | none =>
              cases hcomma : after.skipSpace.consume comma with
              | none => exact ⟨rfl, .fail (by decide)⟩
              | some next =>
                have hnext := length_of_consume hcomma
                exact hobject _ next (by omega)

/-- Two calls for every byte that is left are enough. -/
theorem calls_suffice (fuel : ℕ) :
    (∀ cursor : Cursor, 2 * cursor.rest.length < fuel → Suffices (parseValue · cursor) fuel) ∧
    (∀ array, ∀ cursor : Cursor, 2 * cursor.rest.length + 1 < fuel →
      Suffices (arrayLoop · array cursor) fuel) ∧
    ∀ object, ∀ cursor : Cursor, 2 * cursor.rest.length + 1 < fuel →
      Suffices (objectLoop · object cursor) fuel := by
  induction fuel with
  | zero =>
    refine ⟨?_, ?_, ?_⟩
    · intro cursor hfuel
      omega
    · intro array cursor hfuel
      omega
    · intro object cursor hfuel
      omega
  | succ fuel ih =>
    obtain ⟨hvalue, harray, hobject⟩ := ih
    refine ⟨?_, ?_, ?_⟩
    · intro cursor hfuel
      apply parseValue_suffices
      · exact fun behind hlength => harray [] behind (by omega)
      · exact fun behind hlength => hobject [] behind (by omega)
    · intro array cursor hfuel
      apply arrayLoop_suffices
      · exact fun behind hlength => hvalue behind (by omega)
      · exact fun array behind hlength => harray array behind (by omega)
    · intro object cursor hfuel
      apply objectLoop_suffices
      · exact fun behind hlength => hvalue behind (by omega)
      · exact fun object behind hlength => hobject object behind (by omega)

/-- `parse` allows all the calls that the input can need: more make no difference. -/
theorem parseWithin_eq_parse (input : List UInt8) (fuel : ℕ) (hfuel : 2 * input.length < fuel) :
    parseWithin fuel input = parse input := by
  have hlength := length_skipSpace_le ⟨0, input⟩
  induction fuel, hfuel using Nat.le_induction with
  | base => rfl
  | succ fuel hfuel ih =>
    rw [← ih]
    unfold parseWithin
    obtain ⟨hmore, -⟩ :=
      (calls_suffice fuel).1 (Cursor.mk 0 input).skipSpace (by dsimp only at hlength; omega)
    dsimp only at hmore
    rw [hmore]

/-- `parse` never runs out of the calls that it allows: it returns a value or has an exception of
the source. -/
theorem ends_parse (input : List UInt8) : Ends (parse input) := by
  have hlength := length_skipSpace_le ⟨0, input⟩
  obtain ⟨-, hends⟩ := (calls_suffice (2 * input.length + 1)).1 (Cursor.mk 0 input).skipSpace
    (by dsimp only at hlength; omega)
  unfold parse parseWithin
  dsimp only at hends
  cases hvalue : parseValue (2 * input.length + 1) (Cursor.mk 0 input).skipSpace with
  | error exception => exact hends.error hvalue
  | ok outcome =>
    dsimp only
    split
    · exact .fail (by decide)
    · exact .ok _

/-! ## The whole input -/

/-- At the end of the input there is no blank, and nothing continues a value. -/
theorem atToken_of_nil {cursor : Cursor} (h : cursor.rest = []) :
    AtToken cursor ∧ Delimited cursor := by
  constructor
  · intro byte hbyte
    simp [h] at hbyte
  · intro byte hbyte
    simp [h] at hbyte

/-- `parse` returns a value exactly for its texts, with the blanks of `std::isspace`. -/
theorem parse_eq_ok_iff {input : List UInt8} {value : JsonValue} :
    parse input = .ok value ↔ IsText isSpace input value := by
  unfold parse parseWithin
  constructor
  · intro h
    cases hvalue : parseValue (2 * input.length + 1) (Cursor.mk 0 input).skipSpace with
    | error exception => simp [hvalue] at h
    | ok outcome =>
      obtain ⟨result, behind⟩ := outcome
      rw [hvalue] at h
      dsimp only at h
      split_ifs at h with hrest
      · exact nomatch h
      · obtain rfl := Except.ok.inj h
        -- The value stands between the blanks before it and those up to the end.
        obtain ⟨text, htext, hbetween⟩ := (derives_of_returns _).1 _ _ _ hvalue
        obtain ⟨before, hbefore, hbetween⟩ := between_of_skipSpace hbetween
        obtain ⟨after, hafter, hend⟩ := between_skipSpace behind
        have hwhole := (hbetween.trans hend).rest
        rw [not_not.1 hrest, List.append_nil, List.append_assoc] at hwhole
        exact ⟨before, text, after, hbefore, htext, hafter, hwhole⟩
  · rintro ⟨before, text, after, hbefore, htext, hafter, rfl⟩
    -- The blanks before the value are skipped, and the value ends before those behind it.
    obtain ⟨finish, hfinish, hwhole⟩ : ∃ finish : Cursor, finish.rest = [] ∧
        Between ⟨0, before ++ (text ++ after)⟩ ((before ++ text) ++ after) finish := by
      refine ⟨⟨0 + ((before ++ text) ++ after).length, []⟩, rfl, ?_, rfl⟩
      rw [List.append_nil, List.append_assoc]
    obtain ⟨last, hbetween, hend⟩ := hwhole.split
    obtain ⟨htoken, hdelimited⟩ := atToken_of_nil hfinish
    have hlength : 2 * text.length < 2 * (before ++ (text ++ after)).length + 1 := by
      simp only [List.length_append]
      omega
    rw [htext.parses.behind_blank htext hbefore hlength hbetween
      (Delimited.of_blank hafter hend hdelimited)]
    dsimp only
    rw [skipSpace_eq hafter hend htoken, if_neg (not_not.2 hfinish)]

/-- The parser returns a value for exactly the texts of RFC 8259 if and only if the input, where it
is a text at all, has neither vertical tab nor form feed and is UTF-8: the parser takes both bytes
for blanks, and any bytes in a string. It always ends: the calls that `parse` allows are enough for
a value or an exception of the source, and more make no difference. -/
theorem parse_strict_iff (input : List UInt8) :
    ((∀ exception, parse input = .error exception → exception.message ≠ "") ∧
      ∀ fuel, 2 * input.length < fuel → parseWithin fuel input = parse input) ∧
      ((∀ value, parse input = .ok value ↔ Strict input value) ↔
        ((∃ value, IsText isSpace input value) → 0x0B ∉ input ∧ 0x0C ∉ input ∧ Utf8 input)) := by
  refine ⟨⟨ends_parse input, parseWithin_eq_parse input⟩, ?_⟩
  constructor
  · rintro hexact ⟨value, htext⟩
    obtain ⟨hjson, hutf8⟩ := (hexact value).1 (parse_eq_ok_iff.2 htext)
    obtain ⟨_, htab, hfeed⟩ := (isText_json_iff input value).1 hjson
    exact ⟨htab, hfeed, hutf8⟩
  · intro hclean value
    rw [parse_eq_ok_iff]
    unfold Strict
    rw [isText_json_iff]
    constructor
    · intro htext
      obtain ⟨htab, hfeed, hutf8⟩ := hclean ⟨value, htext⟩
      exact ⟨⟨htext, htab, hfeed⟩, hutf8⟩
    · exact fun h => h.1.1

/-- A vertical tab in front of `null` is no JSON, nor is a byte in a string that is no UTF-8, and
the parser takes both. -/
theorem blanks_and_bytes_taken :
    (¬ ∀ value, parse (0x0B :: nullText) = .ok value ↔ Strict (0x0B :: nullText) value) ∧
      ¬ ∀ value, parse [quote, 0xFF, quote] = .ok value ↔ Strict [quote, 0xFF, quote] value := by
  constructor
  · intro h
    have hstrict := (h .null).1 rfl
    exact ((isText_json_iff _ _).1 hstrict.1).2.1 List.mem_cons_self
  · intro h
    have hstrict := (h (.string [0xFF])).1 rfl
    exact absurd hstrict.2 (by unfold Utf8; decide +kernel)

end RemoteBSP.MockMcu.Json
