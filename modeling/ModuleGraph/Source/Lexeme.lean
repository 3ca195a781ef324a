import ModuleGraph.Source.Token
import ModuleGraph.Text.Letter

/-!
# From characters to tokens

`Lexeme.next` reads one token and what stands before it. It is called anew for every token, because
the grammar decides how the next characters are to be read: a slash starts a regular expression or
divides, a closing brace ends a block or goes back into a template, and text between markup tags is
no token at all. Each of these readings is a function of its own here.

A malformed token does not stop the reading. It yields a lexeme that is not `sound`, and a text
with such a lexeme is refused in the end, unless it was only looked at in an attempt that was given
up.
-/

namespace ModuleGraph.Source

open Text

/-- A token with its surroundings. `source` is the text from the token's first character on and
`rest` the text behind it, so that a token can be read again in another way. -/
structure Lexeme where
  token : Token
  /-- Whether the text between the token before and this one holds a line terminator. -/
  afterLine : Bool
  source : List Char
  rest : List Char
  sound : Bool

namespace Lexeme

/-! ## Blanks and comments -/

/-- The characters that end a line. -/
def isLineEnd (c : Char) : Bool :=
  c == '\n' || c == '\r' || c == '\u2028' || c == '\u2029'

/-- The characters between tokens that end no line. -/
def isSpace (c : Char) : Bool :=
  let n := c.toNat
  n == 0x20 || n == 9 || n == 0xB || n == 0xC || n == 0x85 || n == 0xA0 || n == 0x1680 ||
    (0x2000 ≤ n && n ≤ 0x200B) || n == 0x202F || n == 0x205F || n == 0x3000 || n == 0xFEFF

/-- Where the reading of blanks stands: between tokens, in a comment that ends with its line, or in
one that ends with a star and a slash. -/
inductive Gap where
  | open
  | line
  | block

/-- The text from the next token on, with whether a line ended before it and whether all comments
are closed. Where `html` is set, the openings and closings of comments of a markup page start
comments too, the latter only at the beginning of a line. -/
def skipGap (html : Bool) : Gap → Bool → List Char → Bool × Bool × List Char
  | .open, afterLine, '/' :: '/' :: cs => skipGap html .line afterLine cs
  | .open, afterLine, '/' :: '*' :: cs => skipGap html .block afterLine cs
  | .open, afterLine, '<' :: '!' :: '-' :: '-' :: cs =>
      if html then skipGap html .line afterLine cs
      else (afterLine, true, '<' :: '!' :: '-' :: '-' :: cs)
  | .open, afterLine, '-' :: '-' :: '>' :: cs =>
      if html && afterLine then skipGap html .line afterLine cs
      else (afterLine, true, '-' :: '-' :: '>' :: cs)
  | .open, afterLine, c :: cs =>
      if isLineEnd c then skipGap html .open true cs
      else if isSpace c then skipGap html .open afterLine cs
      else (afterLine, true, c :: cs)
  | .line, afterLine, c :: cs =>
      if isLineEnd c then skipGap html .open true cs else skipGap html .line afterLine cs
  | .block, afterLine, '*' :: '/' :: cs => skipGap html .open afterLine cs
  | .block, afterLine, c :: cs => skipGap html .block (afterLine || isLineEnd c) cs
  | .block, afterLine, [] => (afterLine, false, [])
  | _, afterLine, [] => (afterLine, true, [])

/-! ## Escapes -/

/-- The value of a hexadecimal digit. -/
def hexValue? (c : Char) : Option Nat :=
  let n := c.toNat
  if 0x30 ≤ n && n ≤ 0x39 then some (n - 0x30)
  else if 0x41 ≤ n && n ≤ 0x46 then some (n - 0x37)
  else if 0x61 ≤ n && n ≤ 0x66 then some (n - 0x57)
  else none

/-- The number that hexadecimal digits write. -/
def hexNumber (digits : List Char) : Nat :=
  digits.foldl (fun n c => 16 * n + (hexValue? c).getD 0) 0

/-- The code point written behind `\u`, by four digits or by digits in braces, and the text behind
it. -/
def unicodeEscape? : List Char → Option (Nat × List Char)
  | '{' :: cs =>
      let digits := cs.takeWhile fun c => (hexValue? c).isSome
      match cs.drop digits.length with
      | '}' :: rest =>
          if digits.isEmpty || 0x10FFFF < hexNumber digits then none
          else some (hexNumber digits, rest)
      | _ => none
  | a :: b :: c :: d :: rest =>
      if [a, b, c, d].all fun x => (hexValue? x).isSome then some (hexNumber [a, b, c, d], rest)
      else none
  | _ => none

/-- Whether a code point is the first half of a surrogate pair. -/
def isHighSurrogate (n : Nat) : Bool := 0xD800 ≤ n && n ≤ 0xDBFF

/-- Whether a code point is the second half of a surrogate pair. -/
def isLowSurrogate (n : Nat) : Bool := 0xDC00 ≤ n && n ≤ 0xDFFF

/-- As `unicodeEscape?`, with two escapes in a row joined that write a surrogate pair. -/
def pairedEscape? (cs : List Char) : Option (Nat × List Char) := do
  let (high, rest) ← unicodeEscape? cs
  if cs.head? != some '{' && isHighSurrogate high then
    match rest with
    | '\\' :: 'u' :: more =>
        match unicodeEscape? more with
        | some (low, rest') =>
            if more.head? != some '{' && isLowSurrogate low then
              return (0x10000 + (high - 0xD800) * 0x400 + (low - 0xDC00), rest')
            else return (high, rest)
        | none => return (high, rest)
    | _ => return (high, rest)
  else return (high, rest)

/-- Whether the character is a digit below eight. -/
def isOctal (c : Char) : Bool :=
  0x30 ≤ c.toNat && c.toNat ≤ 0x37

/-- The digits of an escape such as `\101`: two further ones behind a digit up to three and one
behind any other. -/
def octalDigits (first : Char) (cs : List Char) : List Char :=
  first :: (cs.take (if first.toNat ≤ 0x33 then 2 else 1)).takeWhile isOctal

/-- What stands behind a backslash in a string or template: the code points it writes, whether the
escape is valid, and the text behind it. Escapes by octal digits are valid in strings alone. -/
def escaped (inTemplate : Bool) : List Char → List Nat × Bool × List Char
  | [] => ([], false, [])
  | '\r' :: '\n' :: cs => ([], true, cs)
  | c :: cs =>
      let nextIsDigit := (cs.head?.map Char.isDigit).getD false
      if isLineEnd c then ([], true, cs)
      else match c with
        | 'b' => ([8], true, cs)
        | 'f' => ([12], true, cs)
        | 'n' => ([10], true, cs)
        | 'r' => ([13], true, cs)
        | 't' => ([9], true, cs)
        | 'v' => ([11], true, cs)
        | 'x' =>
            match cs with
            | a :: b :: rest =>
                if (hexValue? a).isSome && (hexValue? b).isSome then
                  ([hexNumber [a, b]], true, rest)
                else ([], false, cs)
            | _ => ([], false, cs)
        | 'u' =>
            match pairedEscape? cs with
            | some (n, rest) => ([n], true, rest)
            | none => ([], false, cs)
        | _ =>
            if c == '0' && !nextIsDigit then ([0], true, cs)
            else if inTemplate then (if c.isDigit then ([], false, cs) else ([c.toNat], true, cs))
            else if isOctal c then
              let digits := octalDigits c cs
              let number := digits.foldl (fun n d => 8 * n + (d.toNat - 0x30)) 0
              ([number], true, cs.drop (digits.length - 1))
            else ([c.toNat], true, cs)

/-! ## Strings -/

/-- The four digits by which a text names a surrogate that has lost its other half. -/
def fourDigits (n : Nat) : List Char :=
  [n / 4096 % 16, n / 256 % 16, n / 16 % 16, n % 16].map Nat.digitChar

/-- The text of code points. A surrogate without its other half is no character: it becomes the
replacement character followed by its four digits, and then a replacement character of the text
itself is told apart from it in the same way. -/
def textOf (points : List Nat) : String :=
  let isLone := fun n => isHighSurrogate n || isLowSurrogate n
  let anyLone := points.any isLone
  String.ofList (points.flatMap fun n =>
    if isLone n || (anyLone && n == 0xFFFD) then '\uFFFD' :: fourDigits n else [Char.ofNat n])

/-- The code points of a string up to its closing quote, last one first, and the text behind the
quote; nothing if the line ends before. -/
def stringBody (quote : Char) :
    Nat → List Nat → Bool → List Char → Option (List Nat × Bool × List Char)
  | 0, _, _, _ => none
  | _, _, _, [] => none
  | fuel + 1, points, valid, c :: cs =>
      if c == quote then some (points, valid, cs)
      else if c == '\\' then
        if cs.isEmpty then none
        else
          let (written, ok, rest) := escaped false cs
          stringBody quote fuel (written ++ points) (valid && ok) rest
      else if c == '\n' || c == '\r' then none
      else stringBody quote fuel (c.toNat :: points) valid cs

/-! ## Names -/

/-- The rest of a name, last character first, with whether it holds an escape and whether its
escapes are valid. -/
def nameTail : Nat → List Char → Bool → List Char → List Char × Bool × Bool × List Char
  | 0, name, hasEscape, cs => (name, hasEscape, true, cs)
  | fuel + 1, name, _, '\\' :: cs =>
      match cs with
      | 'u' :: more =>
          match unicodeEscape? more with
          | some (n, rest) =>
              let c := Char.ofNat n
              if isNamePart c then nameTail fuel (c :: name) true rest
              else (name, true, false, rest)
          | none => (name, true, false, more)
      | _ => (name, true, false, cs)
  | fuel + 1, name, hasEscape, c :: cs =>
      if isNamePart c then nameTail fuel (c :: name) hasEscape cs
      else (name, hasEscape, true, c :: cs)
  | _, name, hasEscape, [] => (name, hasEscape, true, [])

/-! ## Numbers -/

/-- The digits of a number, single low lines between them included; nothing if a low line has no
digit behind it. -/
def digits? (isDigit : Char → Bool) : List Char → Option (List Char)
  | '_' :: c :: cs => if isDigit c then digits? isDigit cs else none
  | ['_'] => none
  | c :: cs => if isDigit c then digits? isDigit cs else some (c :: cs)
  | [] => some []

/-- At least one digit, then as `digits?`. -/
def someDigits? (isDigit : Char → Bool) : List Char → Option (List Char)
  | c :: cs => if isDigit c then digits? isDigit cs else none
  | [] => none

/-- The exponent of a number, if there is one. -/
def exponent? : List Char → Option (List Char)
  | e :: cs =>
      if e == 'e' || e == 'E' then
        match cs with
        | '+' :: rest => someDigits? Char.isDigit rest
        | '-' :: rest => someDigits? Char.isDigit rest
        | _ => someDigits? Char.isDigit cs
      else some (e :: cs)
  | [] => some []

/-- What may follow the point of a number: digits and an exponent, or nothing. -/
def fraction? (cs : List Char) : Option (List Char) := do
  let rest ← match cs with
    | c :: _ => if c.isDigit then digits? Char.isDigit cs else some cs
    | [] => some cs
  exponent? rest

/-- A number of another base than ten behind its mark, with the letter that makes it a big
integer. -/
def basedNumber? (isDigit : Char → Bool) (cs : List Char) : Option (List Char) := do
  let rest ← someDigits? isDigit cs
  match rest with
  | 'n' :: more => some more
  | _ => some rest

/-- A number that starts with a zero and a digit: octal, unless it holds a digit above seven, when
it may have a fraction and an exponent. -/
def zeroNumber? (cs : List Char) : Option (List Char) :=
  let digits := cs.takeWhile Char.isDigit
  let rest := cs.drop digits.length
  if digits.all isOctal then some rest
  else match rest with
    | '.' :: more => fraction? more
    | _ => exponent? rest

/-- The text behind a number that starts here with a digit, or with a point and a digit. -/
def numberEnd? : List Char → Option (List Char)
  | '.' :: cs => do exponent? (← someDigits? Char.isDigit cs)
  | '0' :: m :: cs =>
      if m == 'x' || m == 'X' then basedNumber? (fun c => (hexValue? c).isSome) cs
      else if m == 'o' || m == 'O' then basedNumber? isOctal cs
      else if m == 'b' || m == 'B' then basedNumber? (fun c => c == '0' || c == '1') cs
      else if m.isDigit then zeroNumber? (m :: cs)
      else match m with
        | '.' => fraction? cs
        | 'n' => some cs
        | _ => exponent? (m :: cs)
  | cs => do
      let rest ← someDigits? Char.isDigit cs
      match rest with
      | '.' :: more => fraction? more
      | 'n' :: more => some more
      | _ => exponent? rest

/-- As `numberEnd?`, and the number must not run into a name or another number. -/
def number? (cs : List Char) : Option (List Char) := do
  let rest ← numberEnd? cs
  match rest with
  | c :: _ => if c.isDigit || isNameStart c then none else some rest
  | [] => some rest

/-! ## Templates -/

/-- How a piece of a template ends: with the template, with a substitution, or not at all. -/
inductive PieceEnd where
  | closed
  | substitution
  | missing

/-- A piece of a template: how it ends, whether its escapes are valid, and the text behind it. -/
def templatePiece : Nat → Bool → List Char → PieceEnd × Bool × List Char
  | 0, valid, cs => (.missing, valid, cs)
  | _, valid, [] => (.missing, valid, [])
  | fuel + 1, valid, c :: cs =>
      if c == '\x60' then (.closed, valid, cs)
      else if c == '$' && cs.head? == some '{' then (.substitution, valid, cs.drop 1)
      else if c == '\\' then
        let (_, ok, rest) := escaped true cs
        if cs.isEmpty then (.missing, valid, []) else templatePiece fuel (valid && ok) rest
      else templatePiece fuel valid cs

/-! ## Marks -/

/-- The mark at the head of the text, the longest that fits, save that a closing angle bracket
stands alone. -/
def mark? : List Char → Option (Mark × List Char)
  | [] => none
  | c :: cs =>
      match c with
      | '{' => some (.braceOpen, cs)
      | '}' => some (.braceClose, cs)
      | '(' => some (.parenOpen, cs)
      | ')' => some (.parenClose, cs)
      | '[' => some (.bracketOpen, cs)
      | ']' => some (.bracketClose, cs)
      | ';' => some (.semicolon, cs)
      | ',' => some (.comma, cs)
      | ':' => some (.colon, cs)
      | '~' => some (.tilde, cs)
      | '@' => some (.atSign, cs)
      | '.' =>
          match cs with
          | '.' :: '.' :: rest => some (.ellipsis, rest)
          | _ => some (.dot, cs)
      | '?' =>
          match cs with
          | '?' :: '=' :: rest => some (.assign (some .coalesce), rest)
          | '?' :: rest => some (.operator .coalesce, rest)
          | '.' :: rest =>
              if (rest.head?.map Char.isDigit).getD false then some (.question, cs)
              else some (.optionalDot, rest)
          | _ => some (.question, cs)
      | '=' =>
          match cs with
          | '=' :: '=' :: rest => some (.operator .identical, rest)
          | '=' :: rest => some (.operator .equal, rest)
          | '>' :: rest => some (.arrow, rest)
          | _ => some (.assign none, cs)
      | '!' =>
          match cs with
          | '=' :: '=' :: rest => some (.operator .notIdentical, rest)
          | '=' :: rest => some (.operator .notEqual, rest)
          | _ => some (.bang, cs)
      | '+' =>
          match cs with
          | '+' :: rest => some (.increment, rest)
          | '=' :: rest => some (.assign (some .plus), rest)
          | _ => some (.operator .plus, cs)
      | '-' =>
          match cs with
          | '-' :: rest => some (.decrement, rest)
          | '=' :: rest => some (.assign (some .minus), rest)
          | _ => some (.operator .minus, cs)
      | '*' =>
          match cs with
          | '*' :: '=' :: rest => some (.assign (some .power), rest)
          | '*' :: rest => some (.operator .power, rest)
          | '=' :: rest => some (.assign (some .star), rest)
          | _ => some (.operator .star, cs)
      | '/' =>
          match cs with
          | '=' :: rest => some (.assign (some .slash), rest)
          | _ => some (.operator .slash, cs)
      | '%' =>
          match cs with
          | '=' :: rest => some (.assign (some .percent), rest)
          | _ => some (.operator .percent, cs)
      | '<' =>
          match cs with
          | '<' :: '=' :: rest => some (.assign (some .shiftLeft), rest)
          | '<' :: rest => some (.operator .shiftLeft, rest)
          | '=' :: rest => some (.operator .lessEqual, rest)
          | _ => some (.operator .less, cs)
      | '>' => some (.operator .greater, cs)
      | '&' =>
          match cs with
          | '&' :: '=' :: rest => some (.assign (some .logicalAnd), rest)
          | '&' :: rest => some (.operator .logicalAnd, rest)
          | '=' :: rest => some (.assign (some .bitAnd), rest)
          | _ => some (.operator .bitAnd, cs)
      | '|' =>
          match cs with
          | '|' :: '=' :: rest => some (.assign (some .logicalOr), rest)
          | '|' :: rest => some (.operator .logicalOr, rest)
          | '=' :: rest => some (.assign (some .bitOr), rest)
          | _ => some (.operator .bitOr, cs)
      | '^' =>
          match cs with
          | '=' :: rest => some (.assign (some .bitXor), rest)
          | _ => some (.operator .bitXor, cs)
      | _ => none

/-- The longest mark that starts with a closing angle bracket. -/
def greaterMark : List Char → Mark × List Char
  | '>' :: '>' :: '>' :: '=' :: rest => (.assign (some .shiftRightZero), rest)
  | '>' :: '>' :: '>' :: rest => (.operator .shiftRightZero, rest)
  | '>' :: '>' :: '=' :: rest => (.assign (some .shiftRight), rest)
  | '>' :: '>' :: rest => (.operator .shiftRight, rest)
  | '>' :: '=' :: rest => (.operator .greaterEqual, rest)
  | cs => (.operator .greater, cs.drop 1)

/-! ## Regular expressions -/

/-- The text behind the slash that closes a regular expression. Its body is not looked into further
than to find that slash: not after a backslash, not in brackets, and on the same line. -/
def regexEnd? : Bool → Bool → List Char → Option (List Char)
  | _, _, [] => none
  | inEscape, inClass, c :: cs =>
      if isLineEnd c then none
      else if inEscape then regexEnd? false inClass cs
      else if c == '/' && !inClass then some cs
      else if c == '[' then regexEnd? false true cs
      else if c == '\\' then regexEnd? true inClass cs
      else if c == ']' then regexEnd? false false cs
      else regexEnd? false inClass cs

/-- Whether the letters behind a regular expression are flags, each at most once. -/
def areFlags : List Char → Bool
  | [] => true
  | c :: cs => ['g', 'i', 'm', 's', 'u', 'y', 'd', 'v'].contains c && !cs.contains c && areFlags cs

/-! ## Tokens -/

/-- A word or private name from its first character on. -/
def name (fuel : Nat) (afterLine isPrivate : Bool) (source cs : List Char) : Lexeme :=
  let (reversed, hasEscape, valid, rest) := nameTail fuel [] false cs
  let spelling := String.ofList reversed.reverse
  let startsWell := (reversed.getLast?.map isNameStart).getD false
  if valid && startsWell then
    ⟨if isPrivate then .privateName spelling else .word spelling hasEscape, afterLine, source, rest,
      true⟩
  else ⟨.stray, afterLine, source, rest, false⟩

/-- A string from its opening quote on. -/
def string (fuel : Nat) (afterLine : Bool) (quote : Char) (source cs : List Char) : Lexeme :=
  match stringBody quote fuel [] true cs with
  | some (points, valid, rest) => ⟨.string (textOf points.reverse), afterLine, source, rest, valid⟩
  | none => ⟨.stray, afterLine, source, [], false⟩

/-- The next token of a text. `html` is as for `skipGap`, and `fuel` is at least the length of the
text. -/
def next (html : Bool) (fuel : Nat) (firstOfText : Bool) (cs : List Char) : Lexeme :=
  let (afterLine, closed, source) := skipGap html .open firstOfText cs
  match source with
  | [] => ⟨.finish, afterLine, [], [], closed⟩
  | c :: rest =>
      if isNameStart c || c == '\\' then name fuel afterLine false source source
      else if c.isDigit || (c == '.' && (rest.head?.map Char.isDigit).getD false) then
        match number? source with
        | some behind => ⟨.number, afterLine, source, behind, true⟩
        | none => ⟨.stray, afterLine, source, rest, false⟩
      else if c == '"' || c == '\x27' then string fuel afterLine c source rest
      else if c == '\x60' then
        match templatePiece fuel true rest with
        | (.closed, valid, behind) => ⟨.templateWhole valid, afterLine, source, behind, true⟩
        | (.substitution, valid, behind) => ⟨.templateHead valid, afterLine, source, behind, true⟩
        | (.missing, _, behind) => ⟨.stray, afterLine, source, behind, false⟩
      else if c == '#' then name fuel afterLine true source rest
      else match mark? source with
        | some (m, behind) => ⟨.mark m, afterLine, source, behind, true⟩
        | none => ⟨.stray, afterLine, source, rest, false⟩

/-- The lexeme read again as the piece of a template that follows a substitution. -/
def asTemplatePiece (fuel : Nat) (lexeme : Lexeme) : Lexeme :=
  match templatePiece fuel true (lexeme.source.drop 1) with
  | (.closed, valid, behind) => { lexeme with token := .templateTail valid, rest := behind }
  | (.substitution, valid, behind) => { lexeme with token := .templateMiddle valid, rest := behind }
  | (.missing, _, behind) => { lexeme with token := .stray, rest := behind, sound := false }

/-- The lexeme read again as a regular expression, with its token left as it is; nothing if it is
not closed. -/
def asRegex? (lexeme : Lexeme) : Option Lexeme := do
  let behind ← regexEnd? false false (lexeme.source.drop 1)
  let flags := behind.takeWhile fun c => c.isAlphanum || c == '$' || c == '_'
  some { lexeme with rest := behind.drop flags.length, sound := lexeme.sound && areFlags flags }

/-- The lexeme read again as the longest operator that starts with its closing angle bracket. -/
def asGreater (lexeme : Lexeme) : Lexeme :=
  let (m, behind) := greaterMark lexeme.source
  { lexeme with token := .mark m, rest := behind }

/-- The lexeme with only the first of its opening angle brackets. -/
def asSingleLess (lexeme : Lexeme) : Lexeme :=
  { lexeme with token := .mark (.operator .less), rest := lexeme.source.drop 1 }

/-- The lexeme of a name between markup tags, which may hold hyphens. -/
def asMarkupName (lexeme : Lexeme) : Lexeme :=
  match lexeme.token with
  | .word spelling hasEscape =>
      let more := lexeme.rest.takeWhile fun c => c == '-' || isNamePart c
      if more.head? == some '-' then
        { lexeme with
          token := .word (spelling ++ String.ofList more) hasEscape
          rest := lexeme.rest.drop more.length }
      else lexeme
  | _ => lexeme

/-- The next token between an opening and a closing markup tag: a tag, an expression in braces, or
text, in which closing braces and angle brackets must not stand by themselves. -/
def nextMarkup (cs : List Char) : Lexeme :=
  match cs with
  | [] => ⟨.finish, false, [], [], true⟩
  | '<' :: rest => ⟨.mark (.operator .less), false, cs, rest, true⟩
  | '{' :: rest => ⟨.mark .braceOpen, false, cs, rest, true⟩
  | _ =>
      let text := cs.takeWhile fun c => c != '<' && c != '{'
      ⟨.markupText, false, cs, cs.drop text.length, !text.contains '>' && !text.contains '}'⟩

/-- The string that is the value of a markup attribute, which has no escapes and may run over
lines. -/
def markupString (afterLine : Bool) (quote : Char) (source cs : List Char) : Lexeme :=
  let value := cs.takeWhile (· != quote)
  match cs.drop value.length with
  | _ :: rest => ⟨.string (String.ofList value), afterLine, source, rest, true⟩
  | [] => ⟨.stray, afterLine, source, [], false⟩

/-- The next token where the value of a markup attribute is expected. -/
def nextAttribute (html : Bool) (fuel : Nat) (cs : List Char) : Lexeme :=
  let (afterLine, _, source) := skipGap html .open false cs
  match source with
  | c :: rest =>
      if c == '"' || c == '\x27' then markupString afterLine c source rest
      else next html fuel false cs
  | [] => next html fuel false cs

end Lexeme

end ModuleGraph.Source
