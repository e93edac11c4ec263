/-
Files of environment variables. A line binds a name to a value; the word
`export` may stand in front, and a comment may follow. A value in quotes
may hold line breaks and escapes, a bare one ends with the line or at a
number sign behind a blank, which may be the blank behind the equals sign.
A value may refer to variables bound before it and to those of the
environment. Lines of any other form are passed over, and so is a byte
order mark in front of everything.
-/
import Storyline.Dict
import Storyline.Text.Blank

namespace Storyline.EnvFile

-- ========================================================== lexing

/-- A character that ends a line. -/
def isBreak (c : Char) : Bool := c = '\n' || c = '\r'

/-- A blank inside a line. -/
def isInnerBlank (c : Char) : Bool := Text.isBlankChar c && !isBreak c

/-- Skips the blanks of a line. -/
def skipBlanks (cs : List Char) : List Char := cs.dropWhile isInnerBlank

/-- The text behind the next line break. -/
def nextLine (cs : List Char) : List Char := (cs.dropWhile (!isBreak ·)).drop 1

/-- Skips the word `export` with the blanks behind it. -/
def skipExport : List Char → List Char
  | 'e' :: 'x' :: 'p' :: 'o' :: 'r' :: 't' :: c :: cs =>
    if isInnerBlank c then skipBlanks cs
    else 'e' :: 'x' :: 'p' :: 'o' :: 'r' :: 't' :: c :: cs
  | cs => cs

/-- Skips a comment and the end of the line; none when something else is
there. -/
def endLine? (cs : List Char) : Option (List Char) :=
  match skipBlanks cs with
  | [] => some []
  | '#' :: rest => some (nextLine rest)
  | '\r' :: '\n' :: rest => some rest
  | c :: rest => if isBreak c then some rest else none

-- =========================================================== names

/-- A character of a name without quotes. -/
def isNameChar (c : Char) : Bool := c ≠ '=' && c ≠ '#' && !Text.isBlankChar c

/-- Reads a name, which may stand in single quotes. -/
def name? : List Char → Option (List Char × List Char)
  | '\'' :: rest =>
    match rest.dropWhile (· ≠ '\''), rest.takeWhile (· ≠ '\'') with
    | _ :: after, c :: name => some (c :: name, after)
    | _, _ => none
  | cs =>
    match cs.takeWhile isNameChar with
    | [] => none
    | name => some (name, cs.dropWhile isNameChar)

-- ========================================================== values

/-- A value in quotes as it is written, and what follows it. A backslash keeps
the character behind it from ending the value. What is read is held last
first. -/
def quotedFrom (quote : Char) (done : List Char) :
    List Char → Option (List Char × List Char)
  | [] => none
  | '\\' :: c :: cs => quotedFrom quote (c :: '\\' :: done) cs
  | c :: cs =>
    if c = quote then some (done.reverse, cs)
    else quotedFrom quote (c :: done) cs

/-- The escapes of a value in double quotes. -/
def doubleEscapes : List (Char × Char) :=
  [('\\', '\\'), ('\'', '\''), ('"', '"'), ('a', '\x07'), ('b', '\x08'),
   ('f', '\x0c'),
   ('n', '\n'), ('r', '\r'), ('t', '\t'), ('v', '\x0b')]

/-- The escapes of a value in single quotes. -/
def singleEscapes : List (Char × Char) := [('\\', '\\'), ('\'', '\'')]

/-- Reads the escapes of a value; a backslash before anything else stands for
itself. -/
def decodeEscapes (escapes : List (Char × Char)) : List Char → List Char
  | '\\' :: c :: cs =>
    match escapes.lookup c with
    | some d => d :: decodeEscapes escapes cs
    | none => '\\' :: decodeEscapes escapes (c :: cs)
  | c :: cs => c :: decodeEscapes escapes cs
  | [] => []

/-- A bare value up to a number sign with a blank in front. -/
def dropComment : List Char → List Char
  | [] => []
  | c :: cs =>
    if Text.isBlankChar c
        && (cs.dropWhile Text.isBlankChar).head? = some '#' then []
    else c :: dropComment cs

/-- A bare value: the line up to a comment, without the blanks around it. -/
def bareValue (line : List Char) : List Char :=
  Text.trimChars (dropComment line)

/-- Reads the value behind the equals sign. -/
def value? (cs : List Char) : Option (List Char × List Char) :=
  match skipBlanks cs with
  | '\'' :: rest =>
    (quotedFrom '\'' [] rest).map fun (raw, after) =>
      (decodeEscapes singleEscapes raw, after)
  | '"' :: rest =>
    (quotedFrom '"' [] rest).map fun (raw, after) =>
      (decodeEscapes doubleEscapes raw, after)
  | _ =>
    some (bareValue (cs.takeWhile (!isBreak ·)), cs.dropWhile (!isBreak ·))

-- ======================================================== bindings

/-- A name with its value, if it has one. -/
abbrev Binding := List Char × Option (List Char)

/-- Reads what is behind a name: a value, or none, and the end of the line.
Where it breaks off, the rest of the text is given back. -/
def afterName (cs : List Char) :
    Except (List Char) (Option (List Char) × List Char) :=
  match skipBlanks cs with
  | '=' :: rest =>
    match value? rest with
    | none => .error rest
    | some (value, rest) =>
      match endLine? rest with
      | none => .error (skipBlanks rest)
      | some rest => .ok (some value, rest)
  | rest =>
    match endLine? rest with
    | none => .error rest
    | some rest => .ok (none, rest)

/-- Reads the first binding of a text that begins with no blank; a line of
another form is skipped. -/
def binding (cs : List Char) : Option Binding × List Char :=
  match cs with
  | '#' :: rest => (none, nextLine rest)
  | _ =>
    let cs := skipExport cs
    match cs with
    | '#' :: rest => (none, nextLine rest)
    | _ =>
      match name? cs with
      | none => (none, nextLine cs)
      | some (name, rest) =>
        match afterName rest with
        | .error rest => (none, nextLine rest)
        | .ok (value, rest) => (some (name, value), rest)

-- ======================================================== progress

/-! Each step leaves at most what it was given, and a binding leaves less, so
that the bindings of a text come to an end. -/

theorem length_dropWhile_le {α : Type} (p : α → Bool) (cs : List α) :
    (cs.dropWhile p).length ≤ cs.length := (List.dropWhile_suffix p).length_le

theorem length_nextLine_le (cs : List Char) :
    (nextLine cs).length ≤ cs.length - 1 := by
  have := length_dropWhile_le (!isBreak ·) cs
  simp only [nextLine, List.length_drop]
  omega

theorem length_skipBlanks_le (cs : List Char) :
    (skipBlanks cs).length ≤ cs.length :=
  length_dropWhile_le _ cs

theorem length_skipExport_le (cs : List Char) :
    (skipExport cs).length ≤ cs.length := by
  unfold skipExport
  split
  · next c cs =>
    have := length_skipBlanks_le cs
    split <;> (simp only [List.length_cons]; omega)
  · exact Nat.le_refl _

theorem length_of_endLine? {cs rest : List Char}
    (h : endLine? cs = some rest) :
    rest.length ≤ cs.length := by
  have hs := length_skipBlanks_le cs
  unfold endLine? at h
  split at h
  · grind
  · next r hr => have := length_nextLine_le r; grind
  · grind
  · grind

theorem length_of_name? {cs name rest : List Char}
    (h : name? cs = some (name, rest)) :
    rest.length < cs.length := by
  unfold name? at h
  split at h
  · next r =>
    split at h
    · next after _ _ hd _ =>
      have := length_dropWhile_le (· ≠ '\'') r
      simp_all
      omega
    · simp at h
  · split at h
    · simp at h
    · next hne _ =>
      have := congrArg List.length
        (List.takeWhile_append_dropWhile (p := isNameChar) (l := cs))
      have : 0 < (cs.takeWhile isNameChar).length := by grind
      grind

theorem length_of_quotedFrom {quote : Char} {done cs raw rest : List Char}
    (h : quotedFrom quote done cs = some (raw, rest)) :
    rest.length ≤ cs.length := by
  fun_induction quotedFrom quote done cs <;> grind

theorem length_of_value? {cs value rest : List Char}
    (h : value? cs = some (value, rest)) :
    rest.length ≤ cs.length := by
  have hs := length_skipBlanks_le cs
  have hd := length_dropWhile_le (!isBreak ·) cs
  unfold value? at h
  split at h
  · next r hr =>
    obtain ⟨p, hp, he⟩ := Option.map_eq_some_iff.1 h
    have := length_of_quotedFrom hp
    grind
  · next r hr =>
    obtain ⟨p, hp, he⟩ := Option.map_eq_some_iff.1 h
    have := length_of_quotedFrom hp
    grind
  · grind

theorem length_of_afterName_error {cs rest : List Char}
    (h : afterName cs = .error rest) :
    rest.length ≤ cs.length := by
  have hs := length_skipBlanks_le cs
  unfold afterName at h
  split at h
  · split at h
    · grind
    · next r hv =>
      have := length_of_value? hv
      have := length_skipBlanks_le r
      grind
  · grind

theorem length_of_afterName_ok {cs rest : List Char}
    {value : Option (List Char)}
    (h : afterName cs = .ok (value, rest)) : rest.length ≤ cs.length := by
  have hs := length_skipBlanks_le cs
  unfold afterName at h
  split at h
  · split at h
    · grind
    · next hv =>
      have := length_of_value? hv
      split at h
      · grind
      · next he => have := length_of_endLine? he; grind
  · split at h
    · grind
    · next he => have := length_of_endLine? he; grind

theorem length_binding_lt {cs : List Char} (h : cs ≠ []) :
    (binding cs).2.length < cs.length := by
  have hpos : 0 < cs.length := List.length_pos_iff.2 h
  unfold binding
  split
  · next rest => have := length_nextLine_le rest; grind
  · have he := length_skipExport_le cs
    dsimp only
    split
    · next rest hr => have := length_nextLine_le rest; grind
    · split
      · have := length_nextLine_le (skipExport cs); grind
      · next name rest hn =>
        have := length_of_name? hn
        split
        · next r ha =>
          have := length_of_afterName_error ha
          have := length_nextLine_le r
          grind
        · next ha => have := length_of_afterName_ok ha; grind

-- ======================================================== all bindings

/-- The bindings of a text. Each of them takes at least one character. -/
def bindings (cs : List Char) : List Binding :=
  let rest := cs.dropWhile Text.isBlankChar
  if h : rest = [] then []
  else
    have : (binding rest).2.length < cs.length :=
      Nat.lt_of_lt_of_le (length_binding_lt h)
        (length_dropWhile_le Text.isBlankChar cs)
    let others := bindings (binding rest).2
    match (binding rest).1 with
    | some b => b :: others
    | none => others
termination_by cs.length

-- ====================================================== references

/-- Reads a reference to a variable behind its opening brace: its name and its
default. -/
def reference? (cs : List Char) : Option (List Char × List Char × List Char) :=
  let isEnd (c : Char) : Bool := c = '\x7d'
  let name := cs.takeWhile fun c => !isEnd c && c ≠ ':'
  match cs.dropWhile fun c => !isEnd c && c ≠ ':' with
  | ':' :: '-' :: rest =>
    match rest.dropWhile (!isEnd ·) with
    | _ :: after => some (name, rest.takeWhile (!isEnd ·), after)
    | [] => none
  | c :: after => if isEnd c then some (name, [], after) else none
  | [] => none

theorem length_of_reference? {cs name default after : List Char}
    (h : reference? cs = some (name, default, after)) :
    after.length < cs.length := by
  have hd :=
    length_dropWhile_le (fun c => !decide (c = '\x7d') && decide (c ≠ ':')) cs
  unfold reference? at h
  dsimp only at h
  split at h
  · next rest hr =>
    have := length_dropWhile_le (fun c => !decide (c = '\x7d')) rest
    grind
  · grind
  · grind

/-- A value with its references replaced. What follows a reference is shorter
than it. -/
def resolve (environment : List (List Char × List Char)) (cs : List Char) :
    List Char :=
  match cs with
  | [] => []
  | '$' :: '\x7b' :: rest =>
    match h : reference? rest with
    | some (name, default, after) =>
      have := length_of_reference? h
      (environment.lookup name).getD default ++ resolve environment after
    | none => '$' :: resolve environment ('\x7b' :: rest)
  | c :: rest => c :: resolve environment rest
termination_by cs.length
decreasing_by all_goals (simp only [List.length_cons]; omega)

/-- Resolves bindings in their order; what is bound later counts, and a name
without a value hides one with the same name. -/
def resolveAll (environment : List (List Char × List Char))
    (known : List (List Char × Option (List Char))) :
    List Binding → List (List Char × Option (List Char))
  | [] => known.reverse
  | (name, value) :: rest =>
    let bound := known.map fun (name, value) => (name, value.getD [])
    let value := value.map (resolve (bound ++ environment))
    resolveAll environment ((name, value) :: known) rest

/-- The text without the byte order mark that may stand in front. -/
def dropMark : List Char → List Char
  | '\uFEFF' :: cs => cs
  | cs => cs

/-- The variables of a text: those with one name are settled, and a name
without a value has none. -/
def readAll (environment : List (String × String)) (text : List Char) :
    List (String × Option String) :=
  let environment :=
    environment.map fun (name, value) => (name.toList, value.toList)
  Dict.settle ((resolveAll environment [] (bindings (dropMark text))).map
    fun (name, value) => (String.ofList name, value.map String.ofList))

end Storyline.EnvFile
