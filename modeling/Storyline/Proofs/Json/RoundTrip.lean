/-
A document that is written reads back. The writer puts one text in front
of another, the lexer cuts it into tokens, and the reader takes these one
by one; so each piece of text moves the reader from one state to the next
(`readFrom`), whatever comes behind it.

# What carries it

* blanks do not move the reader, a sign, a word and a text in quotes move
  it by one token each (`readFrom_blanks`, `readFrom_sign`,
  `readFrom_word`, `readFrom_string`);
* a value hands itself to the container around it (`hands_of_fits`),
  by induction over the value, as long as it fits below the containers
  that are open (`Fits`).

Main statements: `ofString_indented`, `return_not_mem_indented`.
-/
import Storyline.Json.Reader
import Storyline.Proofs.Json.Numbers
import Storyline.Proofs.Json.QuotedText

namespace Storyline.Json

open Numeral (natChars intChars)

-- ====================================================== what can be read

/-- A whole number that is written in no more digits than are read. -/
def IsShort (z : Int) : Prop := (natChars z.natAbs).length ≤ numberLimit

/-- A document that a reader with so much room can give: its whole
numbers are short, its doubles are good, and containers that hold
something do not go deeper than there is room. -/
inductive Fits (good : Double → Prop) : Nat → Json → Prop where
  | null {room : Nat} : Fits good room .null
  | bool {room : Nat} (value : Bool) : Fits good room (.bool value)
  | integer {room : Nat} {z : Int} (h : IsShort z) :
      Fits good room (.integer z)
  | double {room : Nat} {d : Double} (h : good d) : Fits good room (.double d)
  | string {room : Nat} (value : String) : Fits good room (.string value)
  | emptyArray {room : Nat} : Fits good room (.array [])
  | array {room : Nat} {items : List Json}
      (h : ∀ item ∈ items, Fits good room item) :
      Fits good (room + 1) (.array items)
  | emptyObject {room : Nat} : Fits good room (.object [])
  | object {room : Nat} {members : List (String × Json)}
      (h : ∀ member ∈ members, Fits good room member.2) :
      Fits good (room + 1) (.object members)

/-- A finite double in normal form. -/
def IsNormal (d : Double) : Prop :=
  ∃ negative significand exponent,
    d = .finite negative significand exponent
      ∧ Double.Normal significand exponent

-- =========================================================== the lexer

theorem start_done (done before : List Token) (c : Char) :
    start c (before ++ done)
      = ((start c before).1 ++ done, (start c before).2) := by
  unfold start
  split
  · rfl
  · split
    · rfl
    · split <;> rfl

/-- Going on only adds tokens to those that are there. -/
theorem advance_done (done : List Token) (c : Char) (within : Within) :
    advance done c within
      = ((advance [] c within).1 ++ done, (advance [] c within).2) := by
  cases within with
  | gap => exact start_done done [] c
  | word seen =>
      simp only [advance]
      split
      · exact start_done done [_] c
      · rfl
  | quotes seen =>
      simp only [advance]
      split
      · rfl
      · split <;> rfl
  | escape seen => rfl

theorem tokensFrom_done (done : List Token) (within : Within)
    (cs : List Char) :
    tokensFrom done within cs = done.reverse ++ tokensFrom [] within cs := by
  induction cs generalizing done within with
  | nil => rfl
  | cons c cs ih =>
      simp only [tokensFrom]
      rw [advance_done]
      simp only
      rw [ih, ih (advance [] c within).1, List.reverse_append,
        List.append_assoc]

/-- A text in which no token is open begins with the next token. -/
theorem tokens_cons (c : Char) (cs : List Char) :
    tokens (c :: cs)
      = (start c []).1.reverse ++ tokensFrom [] (start c []).2 cs :=
  tokensFrom_done (start c []).1 (start c []).2 cs

/-- A character that ends a word. -/
def endsWord (c : Char) : Bool :=
  c = '"' || (sign? c).isSome || isJsonBlank c

theorem not_endsWord_of_all {word : List Char}
    (h : (word.all fun c => !endsWord c) = true) :
    ∀ c ∈ word, endsWord c = false := by
  simpa using List.all_eq_true.1 h

theorem tokensFrom_word_end {c : Char} (h : endsWord c = true)
    (seen cs : List Char) :
    tokensFrom [] (.word seen) (c :: cs)
      = .word seen.reverse :: tokens (c :: cs) := by
  have hadvance : advance [] c (.word seen)
      = start c ([] ++ [.word seen.reverse]) := if_pos h
  rw [tokens_cons]
  simp only [tokensFrom]
  rw [hadvance, start_done, tokensFrom_done]
  simp

theorem tokensFrom_word_more {c : Char} (h : endsWord c = false)
    (seen cs : List Char) :
    tokensFrom [] (.word seen) (c :: cs)
      = tokensFrom [] (.word (c :: seen)) cs := by
  have hadvance : advance [] c (.word seen) = ([], .word (c :: seen)) :=
    if_neg (by rw [← endsWord, h]; exact Bool.false_ne_true)
  simp only [tokensFrom]
  rw [hadvance]

/-- A token that is open is no sign. -/
theorem exists_open_token {within : Within} (h : within ≠ .gap)
    (cs : List Char) :
    ∃ t ts, tokensFrom [] within cs = t :: ts ∧ ∀ s, t ≠ .sign s := by
  have hescape (seen : List Char) : Within.escape seen ≠ .gap :=
    Within.noConfusion
  have hquotes (seen : List Char) : Within.quotes seen ≠ .gap :=
    Within.noConfusion
  have hword (seen : List Char) : Within.word seen ≠ .gap :=
    Within.noConfusion
  induction cs generalizing within with
  | nil =>
      cases within with
      | gap => exact absurd rfl h
      | word seen | quotes seen | escape seen =>
          exact ⟨_, [], rfl, fun _ => Token.noConfusion⟩
  | cons c cs ih =>
      cases within with
      | gap => exact absurd rfl h
      | word seen =>
          cases hend : endsWord c with
          | true =>
              rw [tokensFrom_word_end hend]
              exact ⟨_, _, rfl, fun _ => Token.noConfusion⟩
          | false =>
              rw [tokensFrom_word_more hend]
              exact ih (hword _)
      | quotes seen =>
          simp only [tokensFrom, advance]
          split
          · exact ⟨_, _, tokensFrom_done _ _ _, fun _ => Token.noConfusion⟩
          · split
            · exact ih (hescape _)
            · exact ih (hquotes _)
      | escape seen => exact ih (hquotes _)

/-- A word in front of a text that ends it. -/
theorem tokens_word {word rest : List Char} (hne : word ≠ [])
    (hword : ∀ c ∈ word, endsWord c = false)
    (hrest : ∀ c ∈ rest.head?, endsWord c = true) :
    tokens (word ++ rest) = .word word :: tokens rest := by
  have hopen : ∀ (seen cs : List Char), (∀ c ∈ cs, endsWord c = false) →
      tokensFrom [] (.word seen) (cs ++ rest)
        = .word (seen.reverse ++ cs) :: tokens rest := by
    intro seen cs
    induction cs generalizing seen with
    | nil =>
        intro _
        cases rest with
        | nil => simp [tokensFrom, Within.close, tokens]
        | cons c rest =>
            rw [List.nil_append, tokensFrom_word_end (hrest c rfl),
              List.append_nil]
    | cons c cs ih =>
        intro h
        rw [List.forall_mem_cons] at h
        rw [List.cons_append, tokensFrom_word_more h.1, ih _ h.2]
        simp
  cases word with
  | nil => exact absurd rfl hne
  | cons c cs =>
      rw [List.forall_mem_cons] at hword
      have hc := hword.1
      simp only [endsWord, Bool.or_eq_false_iff, decide_eq_false_iff_not,
        Option.isSome_eq_false_iff, Option.isNone_iff_eq_none] at hc
      have hstart : start c [] = ([], .word [c]) := by
        simp [start, hc.1.1, hc.1.2, hc.2]
      rw [List.cons_append, tokens_cons, hstart]
      exact hopen [c] cs hword.2

theorem tokens_blanks {blanks : List Char}
    (h : ∀ c ∈ blanks, isJsonBlank c = true) (rest : List Char) :
    tokens (blanks ++ rest) = tokens rest := by
  induction blanks with
  | nil => rfl
  | cons c blanks ih =>
      rw [List.forall_mem_cons] at h
      have hc := h.1
      simp only [isJsonBlank, Bool.or_eq_true, decide_eq_true_eq] at hc
      rw [← ih h.2]
      rcases hc with ((rfl | rfl) | rfl) | rfl <;> rfl

theorem tokens_sign {c : Char} {s : Sign} (h : sign? c = some s)
    (rest : List Char) : tokens (c :: rest) = .sign s :: tokens rest := by
  have hquote : c ≠ '"' := by
    rintro rfl
    cases h
  have hstart : start c [] = ([.sign s], .gap) := by
    simp [start, hquote, h]
  rw [tokens_cons, hstart]
  rfl

theorem tokens_quoteThen (s : String) (rest : List Char) :
    tokens (quoteThen s rest) = .quoted (escaped s) :: tokens rest := by
  unfold tokens
  rw [tokensFrom_quoteThen, tokensFrom_done]
  rfl

-- ============================================================== words

theorem mem_of_endsWord {c : Char} (h : endsWord c = true) :
    c ∈ ['"', '[', ']', '\x7b', '\x7d', ':', ',', ' ', '\t', '\n', '\r'] := by
  unfold endsWord isJsonBlank sign? at h
  simp only [Bool.or_eq_true, decide_eq_true_eq] at h
  rcases h with (rfl | h) | ((rfl | rfl) | rfl) | rfl
  · decide
  · split at h
    all_goals first | decide | cases h
  all_goals decide

theorem mem_chars {w : Written} (h : w.Sound) {c : Char}
    (hc : c ∈ w.chars) :
    isAsciiDigit c = true ∨ c ∈ ['-', '+', '.', 'e'] := by
  have hpower : c ∈ powerChars w.exponent →
      isAsciiDigit c = true ∨ c ∈ ['-', '+', '.', 'e'] := by
    cases hexponent : w.exponent with
    | none => simp [powerChars]
    | some power =>
        intro hc
        rcases List.mem_cons.1 hc with rfl | hc
        · simp
        rcases List.mem_cons.1 hc with rfl | hc
        · split <;> simp
        · exact Or.inl ((h.exponent _ _ hexponent).2 c hc)
  have hbody : c ∈ w.whole ++ pointThen w.fraction (powerChars w.exponent) →
      isAsciiDigit c = true ∨ c ∈ ['-', '+', '.', 'e'] := by
    intro hc
    rcases List.mem_append.1 hc with hc | hc
    · exact Or.inl (h.wholeDigits c hc)
    · cases hfraction : w.fraction with
      | none =>
          rw [hfraction] at hc
          exact hpower hc
      | some digits =>
          rw [hfraction] at hc
          rcases List.mem_cons.1 hc with rfl | hc
          · simp
          rcases List.mem_append.1 hc with hc | hc
          · exact Or.inl ((h.fraction _ hfraction).2 c hc)
          · exact hpower hc
  unfold Written.chars signThen at hc
  split at hc
  · rcases List.mem_cons.1 hc with rfl | hc
    · simp
    · exact hbody hc
  · exact hbody hc

/-- No character of a number ends it. -/
theorem endsWord_of_mem_chars {w : Written} (h : w.Sound) :
    ∀ c ∈ w.chars, endsWord c = false := by
  intro c hc
  have hall : ∀ c ∈ ['"', '[', ']', '\x7b', '\x7d', ':', ',', ' ', '\t', '\n',
      '\r'], isAsciiDigit c = false ∧ c ∉ ['-', '+', '.', 'e'] := by
    simp only [List.forall_mem_cons, List.not_mem_nil, false_implies,
      implies_true]
    decide
  cases hend : endsWord c with
  | false => rfl
  | true =>
      obtain ⟨hdigit, hother⟩ := hall c (mem_of_endsWord hend)
      rcases mem_chars h hc with hc | hc
      · rw [hdigit] at hc
        cases hc
      · exact absurd hc hother

theorem chars_ne_nil {w : Written} (h : w.Sound) : w.chars ≠ [] := by
  have := whole_ne_nil h.whole
  unfold Written.chars signThen
  split <;> simp [this]

-- ========================================================== the reader

/-- The reader after a text. -/
def readFrom (tolerance : Tolerance) (reader : Reader) (cs : List Char) :
    Except Fault Reader :=
  (tokens cs).foldlM (Reader.step tolerance) reader

variable {tolerance : Tolerance} {reader after : Reader} {rest : List Char}

/-- A text that is one more token moves the reader by one step. -/
theorem readFrom_token {cs : List Char} {t : Token}
    (h : tokens cs = t :: tokens rest)
    (hstep : reader.step tolerance t = .ok after) :
    readFrom tolerance reader cs = readFrom tolerance after rest := by
  unfold readFrom
  rw [h, List.foldlM_cons, hstep]
  rfl

theorem readFrom_blanks {blanks : List Char}
    (h : ∀ c ∈ blanks, isJsonBlank c = true) :
    readFrom tolerance reader (blanks ++ rest)
      = readFrom tolerance reader rest := by
  unfold readFrom
  rw [tokens_blanks h]

theorem readFrom_sign {c : Char} {s : Sign} (h : sign? c = some s)
    (hstep : reader.step tolerance (.sign s) = .ok after) :
    readFrom tolerance reader (c :: rest) = readFrom tolerance after rest :=
  readFrom_token (tokens_sign h rest) hstep

/-- A text that ends a word in front of it. -/
def Ends (rest : List Char) : Prop := ∀ c ∈ rest.head?, endsWord c = true

/-- A word hands its value to the container around it. -/
theorem readFrom_word {word : List Char} {value : Json} (hne : word ≠ [])
    (hword : ∀ c ∈ word, endsWord c = false) (hrest : Ends rest)
    (hvalue : word? tolerance word = some value) (stack : List Frame) :
    readFrom tolerance ⟨.value, stack⟩ (word ++ rest)
      = readFrom tolerance (.deliver value stack) rest := by
  apply readFrom_token (tokens_word hne hword hrest)
  simp only [Reader.step, Reader.begin, hvalue]
  rfl

/-- So does a text in quotes. -/
theorem readFrom_string (s : String) (stack : List Frame) :
    readFrom tolerance ⟨.value, stack⟩ (quoteThen s rest)
      = readFrom tolerance (.deliver (.string s) stack) rest := by
  apply readFrom_token (tokens_quoteThen s rest)
  simp only [Reader.step, Reader.begin, unescape_escaped]
  rfl

/-- A name waits for its colon. -/
theorem readFrom_name {awaiting : Awaiting} {done : List (String × Json)}
    (h : awaiting = .name done ∨ awaiting = .firstName ∧ done = [])
    (name : String) (stack : List Frame) :
    readFrom tolerance ⟨awaiting, stack⟩ (quoteThen name rest)
      = readFrom tolerance ⟨.colon done name, stack⟩ rest := by
  apply readFrom_token (tokens_quoteThen name rest)
  rcases h with rfl | ⟨rfl, rfl⟩
  · simp only [Reader.step, Reader.readName, unescape_escaped]
    rfl
  · simp only [Reader.step, Reader.readName, unescape_escaped]
    rfl

-- ============================================================== layouts

/-- A layout that puts nothing but blanks and colons between values. -/
structure Layout.Blank (layout : Layout) : Prop where
  lineBreak : ∀ depth, ∀ c ∈ layout.lineBreak depth, isJsonBlank c = true
  afterName : ∃ blanks, layout.afterName = ':' :: blanks
    ∧ ∀ c ∈ blanks, isJsonBlank c = true

theorem Layout.blank_indented : Layout.indented.Blank := by
  constructor
  · intro depth c hc
    rcases List.mem_cons.1 hc with rfl | hc
    · decide
    · rw [List.eq_of_mem_replicate hc]
      decide
  · exact ⟨[' '], rfl, List.all_eq_true.1 rfl⟩

theorem endsWord_blank {c : Char} (h : isJsonBlank c = true) :
    endsWord c = true := by
  simp [endsWord, h]

theorem endsWord_sign {c : Char} {s : Sign} (h : sign? c = some s) :
    endsWord c = true := by
  simp [endsWord, h]

theorem ends_cons {c : Char} (h : endsWord c = true) : Ends (c :: rest) := by
  intro d hd
  rwa [← Option.some.inj hd]

theorem ends_blanks {blanks : List Char}
    (h : ∀ c ∈ blanks, isJsonBlank c = true) (hrest : Ends rest) :
    Ends (blanks ++ rest) := by
  cases blanks with
  | nil => exact hrest
  | cons c blanks => exact ends_cons (endsWord_blank (h c List.mem_cons_self))

-- =========================================================== containers

section Containers

variable {layout : Layout}

/-- Writing a value somewhere and reading it hands it over. -/
def Hands (tolerance : Tolerance) (layout : Layout) (room : Nat)
    (value : Json) : Prop :=
  ∀ (depth : Nat) (stack : List Frame) (rest : List Char),
    stack.length + room ≤ tolerance.depth → Ends rest →
      readFrom tolerance ⟨.value, stack⟩ (charsThen layout depth value rest)
        = readFrom tolerance (.deliver value stack) rest

theorem push_eq {frame : Frame} {stack : List Frame}
    (h : stack.length < tolerance.depth) :
    Reader.push tolerance frame stack = .ok (frame :: stack) :=
  if_pos h

/-- The first item of an array begins as any value does, unless there is
none. -/
theorem readFrom_firstItem {stack : List Frame} {cs : List Char}
    (hroom : stack.length < tolerance.depth)
    (hfirst : ∃ t ts, tokens cs = t :: ts ∧ t ≠ .sign .closeArray) :
    readFrom tolerance ⟨.firstItem, stack⟩ cs
      = readFrom tolerance ⟨.value, .array [] :: stack⟩ cs := by
  obtain ⟨t, ts, hcs, ht⟩ := hfirst
  have hstep : Reader.step tolerance ⟨.firstItem, stack⟩ t
      = Reader.step tolerance ⟨.value, .array [] :: stack⟩ t := by
    simp only [Reader.step, if_neg ht, push_eq hroom]
    rfl
  unfold readFrom
  rw [hcs, List.foldlM_cons, List.foldlM_cons, hstep]

variable {room : Nat} {stack : List Frame}

theorem ends_itemsThen (layout : Layout) (depth : Nat) (items : List Json)
    (hrest : Ends rest) : Ends (itemsThen layout depth items rest) := by
  cases items with
  | nil => exact hrest
  | cons item items => exact ends_cons (endsWord_sign (by rfl : sign? ',' = _))

theorem ends_membersThen (layout : Layout) (depth : Nat)
    (members : List (String × Json)) (hrest : Ends rest) :
    Ends (membersThen layout depth members rest) := by
  cases members with
  | nil => exact hrest
  | cons member members =>
      exact ends_cons (endsWord_sign (by rfl : sign? ',' = _))

/-- The items behind the first one come to those that are there. -/
theorem readFrom_itemsThen (hlayout : layout.Blank) {items : List Json}
    (hitems : ∀ item ∈ items, Hands tolerance layout room item) (depth : Nat)
    (hroom : stack.length + (room + 1) ≤ tolerance.depth)
    (hrest : Ends rest) (done : List Json) :
    readFrom tolerance ⟨.nextItem done, stack⟩
        (itemsThen layout depth items rest)
      = readFrom tolerance ⟨.nextItem (items.reverse ++ done), stack⟩
          rest := by
  induction items generalizing done with
  | nil => rfl
  | cons item items ih =>
      rw [List.forall_mem_cons] at hitems
      have hpush : Reader.push tolerance (.array done) stack
          = .ok (.array done :: stack) := push_eq (by omega)
      have hcomma : Reader.step tolerance ⟨.nextItem done, stack⟩
          (.sign .comma) = .ok ⟨.value, .array done :: stack⟩ := by
        simp only [Reader.step, hpush]
        rfl
      have hhands := hitems.1 depth (.array done :: stack)
        (itemsThen layout depth items rest)
        (by rw [List.length_cons]; omega)
        (ends_itemsThen layout depth items hrest)
      unfold itemsThen
      rw [readFrom_sign rfl hcomma,
        readFrom_blanks (hlayout.lineBreak depth), hhands]
      show readFrom tolerance ⟨.nextItem (item :: done), stack⟩ _ = _
      rw [ih hitems.2, List.reverse_cons, List.append_assoc]
      rfl

/-- A name and its value come to the members that are there. -/
theorem readFrom_member (hlayout : layout.Blank) {value : Json}
    (hvalue : Hands tolerance layout room value) (depth : Nat)
    (hroom : stack.length + (room + 1) ≤ tolerance.depth)
    (hrest : Ends rest) {awaiting : Awaiting} {done : List (String × Json)}
    (h : awaiting = .name done ∨ awaiting = .firstName ∧ done = [])
    (name : String) :
    readFrom tolerance ⟨awaiting, stack⟩ (quoteThen name
        (layout.afterName ++ charsThen layout depth value rest))
      = readFrom tolerance
          ⟨.nextMember ((name, value) :: done), stack⟩ rest := by
  obtain ⟨blanks, hafter, hblanks⟩ := hlayout.afterName
  have hpush : Reader.push tolerance (.object done name) stack
      = .ok (.object done name :: stack) := push_eq (by omega)
  have hcolon : Reader.step tolerance ⟨.colon done name, stack⟩
      (.sign .colon) = .ok ⟨.value, .object done name :: stack⟩ := by
    simp only [Reader.step, hpush, if_true]
    rfl
  rw [readFrom_name h, hafter, List.cons_append, readFrom_sign rfl hcolon,
    readFrom_blanks hblanks,
    hvalue depth (.object done name :: stack) rest
      (by rw [List.length_cons]; omega) hrest]
  rfl

/-- The members behind the first one come to those that are there. -/
theorem readFrom_membersThen (hlayout : layout.Blank)
    {members : List (String × Json)}
    (hmembers : ∀ member ∈ members, Hands tolerance layout room member.2)
    (depth : Nat) (hroom : stack.length + (room + 1) ≤ tolerance.depth)
    (hrest : Ends rest) (done : List (String × Json)) :
    readFrom tolerance ⟨.nextMember done, stack⟩
        (membersThen layout depth members rest)
      = readFrom tolerance
          ⟨.nextMember (members.reverse ++ done), stack⟩ rest := by
  induction members generalizing done with
  | nil => rfl
  | cons member members ih =>
      obtain ⟨name, value⟩ := member
      rw [List.forall_mem_cons] at hmembers
      have hcomma : Reader.step tolerance ⟨.nextMember done, stack⟩
          (.sign .comma) = .ok ⟨.name done, stack⟩ := rfl
      unfold membersThen
      rw [readFrom_sign rfl hcomma,
        readFrom_blanks (hlayout.lineBreak depth),
        readFrom_member hlayout hmembers.1 depth hroom
          (ends_membersThen layout depth members hrest) (Or.inl rfl),
        ih hmembers.2, List.reverse_cons, List.append_assoc]
      rfl

end Containers

-- ============================================================= documents

section Documents

variable {layout : Layout} {room : Nat}

/-- A text that begins neither with a blank nor with a sign begins with a
token that is no sign. -/
theorem exists_first_token {c : Char} (hsign : sign? c = none)
    (hblank : isJsonBlank c = false) (cs : List Char) :
    ∃ t ts, tokens (c :: cs) = t :: ts ∧ t ≠ .sign .closeArray := by
  have hstart : (start c []).1 = [] ∧ (start c []).2 ≠ .gap := by
    unfold start
    split
    · exact ⟨rfl, Within.noConfusion⟩
    · rw [hsign, hblank]
      exact ⟨rfl, Within.noConfusion⟩
  obtain ⟨t, ts, hcs, ht⟩ := exists_open_token hstart.2 cs
  refine ⟨t, ts, ?_, ht _⟩
  rw [tokens_cons, hstart.1]
  exact hcs

theorem exists_first_token_word {word : List Char} (hne : word ≠ [])
    (hword : ∀ c ∈ word, endsWord c = false) (cs : List Char) :
    ∃ t ts, tokens (word ++ cs) = t :: ts ∧ t ≠ .sign .closeArray := by
  cases word with
  | nil => exact absurd rfl hne
  | cons c word =>
      have hc := hword c List.mem_cons_self
      simp only [endsWord, Bool.or_eq_false_iff, decide_eq_false_iff_not,
        Option.isSome_eq_false_iff, Option.isNone_iff_eq_none] at hc
      exact exists_first_token hc.1.2 hc.2 (word ++ cs)

/-- A word for a whole number or a double. -/
theorem exists_word {value : Json} (h : Fits IsNormal room value)
    (hnumber : (∃ z, value = .integer z) ∨ ∃ d, value = .double d) :
    ∃ word, word ≠ [] ∧ (∀ c ∈ word, endsWord c = false)
      ∧ (∀ layout depth rest,
          charsThen layout depth value rest = word ++ rest)
      ∧ ∀ tolerance, word? tolerance word = some value := by
  rcases hnumber with ⟨z, rfl⟩ | ⟨d, rfl⟩
  · cases h with
    | integer h =>
        have hchars := chars_wholeParts z
        refine ⟨intChars z, ?_, ?_, fun _ _ _ => by rw [charsThen],
          fun tolerance => word?_intChars tolerance h⟩
        · rw [← hchars]
          exact chars_ne_nil (sound_wholeParts z)
        · rw [← hchars]
          exact endsWord_of_mem_chars (sound_wholeParts z)
  · cases h with
    | double h =>
        obtain ⟨negative, significand, exponent, rfl, hnormal⟩ := h
        obtain ⟨w, hsound, hw, -⟩ := exists_written_double hnormal negative
        refine ⟨Double.finiteChars negative significand exponent, ?_, ?_,
          fun _ _ _ => by rw [charsThen]; rfl,
          fun tolerance => word?_finiteChars hnormal tolerance negative⟩
        · rw [← hw]
          exact chars_ne_nil hsound
        · rw [← hw]
          exact endsWord_of_mem_chars hsound

/-- No value begins with the sign that ends an array. -/
theorem exists_first_token_charsThen {value : Json}
    (h : Fits IsNormal room value) (layout : Layout) (depth : Nat)
    (rest : List Char) :
    ∃ t ts, tokens (charsThen layout depth value rest) = t :: ts
      ∧ t ≠ .sign .closeArray := by
  have harray (cs : List Char) :
      ∃ t ts, tokens ('[' :: cs) = t :: ts ∧ t ≠ .sign .closeArray :=
    ⟨_, _, tokens_sign rfl cs, nofun⟩
  have hobject (cs : List Char) :
      ∃ t ts, tokens ('\x7b' :: cs) = t :: ts ∧ t ≠ .sign .closeArray :=
    ⟨_, _, tokens_sign rfl cs, nofun⟩
  have hnumber (hvalue : (∃ z, value = .integer z) ∨ ∃ d, value = .double d) :
      ∃ t ts, tokens (charsThen layout depth value rest) = t :: ts
        ∧ t ≠ .sign .closeArray := by
    obtain ⟨word, hne, hword, hchars, -⟩ := exists_word h hvalue
    rw [hchars]
    exact exists_first_token_word hne hword rest
  cases value with
  | null => exact exists_first_token (by decide) (by decide) _
  | bool value =>
      cases value <;> exact exists_first_token (by decide) (by decide) _
  | integer z => exact hnumber (Or.inl ⟨z, rfl⟩)
  | double d => exact hnumber (Or.inr ⟨d, rfl⟩)
  | string value =>
    exact ⟨_, _, tokens_quoteThen value rest, Token.noConfusion⟩
  | array items => cases items <;> exact harray _
  | object members => cases members <;> exact hobject _

theorem hands_of_word {value : Json} (word : List Char) (hne : word ≠ [])
    (hword : ∀ c ∈ word, endsWord c = false)
    (hchars : ∀ layout depth rest,
      charsThen layout depth value rest = word ++ rest)
    (hvalue : word? tolerance word = some value) :
    Hands tolerance layout room value := by
  intro depth stack rest _ hrest
  rw [hchars]
  exact readFrom_word hne hword hrest hvalue stack

/-- An array hands itself over when its items do. -/
theorem hands_array (hlayout : layout.Blank) {items : List Json}
    (hfits : ∀ item ∈ items, Fits IsNormal room item)
    (hitems : ∀ item ∈ items, Hands tolerance layout room item) :
    Hands tolerance layout (room + 1) (.array items) := by
  intro depth stack rest hroom hrest
  have hopen {cs : List Char} :
      readFrom tolerance ⟨.value, stack⟩ ('[' :: cs)
        = readFrom tolerance ⟨.firstItem, stack⟩ cs :=
    readFrom_sign (by rfl : sign? '[' = _) rfl
  cases items with
  | nil =>
      rw [charsThen, hopen, readFrom_sign (by rfl : sign? ']' = _) rfl]
  | cons first items =>
      rw [List.forall_mem_cons] at hfits hitems
      have hends : Ends (layout.lineBreak depth ++ ']' :: rest) :=
        ends_blanks (hlayout.lineBreak depth)
          (ends_cons (endsWord_sign (by rfl : sign? ']' = _)))
      have hclose : Reader.step tolerance
          ⟨.nextItem (items.reverse ++ [first]), stack⟩ (.sign .closeArray)
            = .ok (.deliver (.array (first :: items)) stack) := by
        simp [Reader.step]
      rw [charsThen, hopen, readFrom_blanks (hlayout.lineBreak _),
        readFrom_firstItem (by omega)
          (exists_first_token_charsThen hfits.1 layout _ _),
        hitems.1 _ _ _ (by rw [List.length_cons]; omega)
          (ends_itemsThen layout _ items hends)]
      show readFrom tolerance ⟨.nextItem [first], stack⟩ _ = _
      rw [readFrom_itemsThen hlayout hitems.2 _ hroom hends,
        readFrom_blanks (hlayout.lineBreak depth),
        readFrom_sign (by rfl : sign? ']' = _) hclose]

/-- An object hands itself over when the values of its members do. -/
theorem hands_object (hlayout : layout.Blank)
    {members : List (String × Json)}
    (hmembers : ∀ member ∈ members, Hands tolerance layout room member.2) :
    Hands tolerance layout (room + 1) (.object members) := by
  intro depth stack rest hroom hrest
  have hopen {cs : List Char} :
      readFrom tolerance ⟨.value, stack⟩ ('\x7b' :: cs)
        = readFrom tolerance ⟨.firstName, stack⟩ cs :=
    readFrom_sign (by rfl : sign? '\x7b' = _) rfl
  cases members with
  | nil =>
      rw [charsThen, hopen, readFrom_sign (by rfl : sign? '\x7d' = _) rfl]
  | cons first members =>
      obtain ⟨name, value⟩ := first
      rw [List.forall_mem_cons] at hmembers
      have hends : Ends (layout.lineBreak depth ++ '\x7d' :: rest) :=
        ends_blanks (hlayout.lineBreak depth)
          (ends_cons (endsWord_sign (by rfl : sign? '\x7d' = _)))
      have hclose : Reader.step tolerance
          ⟨.nextMember (members.reverse ++ [(name, value)]), stack⟩
          (.sign .closeObject)
            = .ok (.deliver (.object ((name, value) :: members)) stack) := by
        simp [Reader.step]
      rw [charsThen, hopen, readFrom_blanks (hlayout.lineBreak _),
        readFrom_member hlayout hmembers.1 _ hroom
          (ends_membersThen layout _ members hends) (Or.inr ⟨rfl, rfl⟩),
        readFrom_membersThen hlayout hmembers.2 _ hroom hends,
        readFrom_blanks (hlayout.lineBreak depth),
        readFrom_sign (by rfl : sign? '\x7d' = _) hclose]

/-- Writing a value that fits and reading it hands it over. -/
theorem hands_of_fits (hlayout : layout.Blank) {value : Json}
    (h : Fits IsNormal room value) : Hands tolerance layout room value := by
  have hnumber {room : Nat} {value : Json} (h : Fits IsNormal room value)
      (hvalue : (∃ z, value = .integer z) ∨ ∃ d, value = .double d) :
      Hands tolerance layout room value := by
    obtain ⟨word, hne, hends, hchars, hread⟩ := exists_word h hvalue
    exact hands_of_word word hne hends hchars (hread tolerance)
  induction h with
  | null =>
      exact hands_of_word "null".toList (by decide) (not_endsWord_of_all rfl)
        (fun _ _ _ => by rw [charsThen]) rfl
  | bool value =>
      cases value with
      | true =>
          exact hands_of_word "true".toList (by decide)
            (not_endsWord_of_all rfl)
            (fun _ _ _ => by rw [charsThen]) rfl
      | false =>
          exact hands_of_word "false".toList (by decide)
            (not_endsWord_of_all rfl)
            (fun _ _ _ => by rw [charsThen]) rfl
  | integer h => exact hnumber (.integer h) (Or.inl ⟨_, rfl⟩)
  | double h => exact hnumber (.double h) (Or.inr ⟨_, rfl⟩)
  | string value =>
      intro depth stack rest _ _
      rw [charsThen]
      exact readFrom_string value stack
  | emptyArray =>
      intro depth stack rest _ _
      rw [charsThen, readFrom_sign (by rfl : sign? '[' = _) rfl,
        readFrom_sign (by rfl : sign? ']' = _) rfl]
  | array h ih => exact hands_array hlayout h ih
  | emptyObject =>
      intro depth stack rest _ _
      rw [charsThen, readFrom_sign (by rfl : sign? '\x7b' = _) rfl,
        readFrom_sign (by rfl : sign? '\x7d' = _) rfl]
  | object h ih => exact hands_object hlayout ih

/-- A document that fits reads back. -/
theorem ofString_indented {json : Json}
    (h : Fits IsNormal tolerance.depth json) :
    ofString tolerance json.indented = .ok json := by
  have hhands : Hands tolerance .indented tolerance.depth json :=
    hands_of_fits Layout.blank_indented h
  have hread := hhands 0 [] [] (by simp) nofun
  unfold readFrom at hread
  unfold ofString ofTokens indented chars
  rw [String.toList_ofList, hread]
  rfl

-- ======================================================= line breaks

/-- Writing a value adds no carriage return to what stands behind it. -/
def AddsNoReturn (value : Json) : Prop :=
  ∀ (depth : Nat) (rest : List Char), '\r' ∉ rest →
    '\r' ∉ charsThen .indented depth value rest

theorem return_not_mem_quoteThen (s : String) {rest : List Char}
    (h : '\r' ∉ rest) : '\r' ∉ quoteThen s rest := by
  rw [quoteThen_eq]
  simp [return_not_mem_escaped s, h]

theorem return_not_mem_lineBreak (depth : Nat) {rest : List Char}
    (h : '\r' ∉ rest) : '\r' ∉ Layout.indented.lineBreak depth ++ rest := by
  simp [Layout.indented, h]

theorem return_not_mem_itemsThen {items : List Json}
    (h : ∀ item ∈ items, AddsNoReturn item) (depth : Nat) {rest : List Char}
    (hrest : '\r' ∉ rest) : '\r' ∉ itemsThen .indented depth items rest := by
  induction items with
  | nil => exact hrest
  | cons item items ih =>
      rw [List.forall_mem_cons] at h
      rw [itemsThen, List.mem_cons, not_or]
      exact ⟨by decide,
        return_not_mem_lineBreak _ (h.1 _ _ (ih h.2))⟩

theorem return_not_mem_membersThen {members : List (String × Json)}
    (h : ∀ member ∈ members, AddsNoReturn member.2) (depth : Nat)
    {rest : List Char} (hrest : '\r' ∉ rest) :
    '\r' ∉ membersThen .indented depth members rest := by
  induction members with
  | nil => exact hrest
  | cons member members ih =>
      obtain ⟨name, value⟩ := member
      rw [List.forall_mem_cons] at h
      have hvalue := h.1 depth _ (ih h.2)
      rw [membersThen, List.mem_cons, not_or]
      refine ⟨by decide,
        return_not_mem_lineBreak _ (return_not_mem_quoteThen _ ?_)⟩
      simpa [Layout.indented] using hvalue

/-- The text of a number has none. -/
theorem addsNoReturn_of_number {value : Json} (h : Fits IsNormal room value)
    (hnumber : (∃ z, value = .integer z) ∨ ∃ d, value = .double d) :
    AddsNoReturn value := by
  obtain ⟨word, -, hends, hchars, -⟩ := exists_word h hnumber
  intro depth rest hrest
  rw [hchars, List.mem_append, not_or]
  refine ⟨fun hmem => ?_, hrest⟩
  have hreturn := hends '\r' hmem
  revert hreturn
  decide

theorem addsNoReturn {value : Json} (h : Fits IsNormal room value) :
    AddsNoReturn value := by
  induction h with
  | null =>
      intro depth rest hrest
      simp [charsThen, hrest]
  | bool value =>
      intro depth rest hrest
      cases value <;> simp [charsThen, hrest]
  | @integer room z h =>
      exact addsNoReturn_of_number (.integer h : Fits _ room _)
        (Or.inl ⟨z, rfl⟩)
  | @double room d h =>
      exact addsNoReturn_of_number (.double h : Fits _ room _)
        (Or.inr ⟨d, rfl⟩)
  | string value =>
      intro depth rest hrest
      rw [charsThen]
      exact return_not_mem_quoteThen value hrest
  | emptyArray | emptyObject =>
      intro depth rest hrest
      simp [charsThen, hrest]
  | @array room items h ih =>
      intro depth rest hrest
      cases items with
      | nil => simp [charsThen, hrest]
      | cons first items =>
          rw [List.forall_mem_cons] at ih
          have hend : '\r' ∉ ']' :: rest := by simp [hrest]
          rw [charsThen, List.mem_cons, not_or]
          exact ⟨by decide, return_not_mem_lineBreak _ (ih.1 _ _
            (return_not_mem_itemsThen ih.2 _
              (return_not_mem_lineBreak depth hend)))⟩
  | @object room members h ih =>
      intro depth rest hrest
      cases members with
      | nil => simp [charsThen, hrest]
      | cons first members =>
          obtain ⟨name, value⟩ := first
          rw [List.forall_mem_cons] at ih
          have hend : '\r' ∉ '\x7d' :: rest := by simp [hrest]
          have hvalue := ih.1 (depth + 1) _ (return_not_mem_membersThen ih.2
            (depth + 1) (return_not_mem_lineBreak depth hend))
          rw [charsThen, List.mem_cons, not_or]
          refine ⟨by decide,
            return_not_mem_lineBreak _ (return_not_mem_quoteThen _ ?_)⟩
          simpa [Layout.indented] using hvalue

/-- A document that fits is written without a carriage return. -/
theorem return_not_mem_indented {json : Json} (h : Fits IsNormal room json) :
    '\r' ∉ json.indented.toList := by
  unfold indented chars
  rw [String.toList_ofList]
  exact addsNoReturn h 0 [] List.not_mem_nil

end Documents

end Storyline.Json
