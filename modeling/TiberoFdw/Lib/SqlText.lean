import Mathlib.Data.List.Basic

/-!
# Reading SQL text

A scanner for the lexical level of SQL, as a state machine over characters, and
a reader of parentheses over its tokens. Two kinds of quoting: a string literal
stands between single quotes, a quoted identifier between double quotes, and in
both a doubled quote stands for the quote itself; backslash is an ordinary
character. A question mark is a parameter marker.

Both machines are folds, so a text is read piece by piece: `Lexes` says that a
piece read from a token boundary gives certain tokens and ends at a boundary
again, and `Reads` says the same of a piece of the token list and the groups it
forms.
-/

namespace SqlText

/-- The tokens of SQL text. -/
inductive Token : Type where
  /-- an unquoted word: keyword, identifier or digits -/
  | word (s : List Char)
  /-- a quoted identifier -/
  | ident (s : List Char)
  /-- a string literal -/
  | str (s : List Char)
  /-- a run of operator characters -/
  | op (s : List Char)
  /-- a single symbol: parenthesis, comma, period, parameter marker -/
  | sym (c : Char)
  deriving DecidableEq

/-- Double every occurrence of the quote `q`. -/
def escape (q : Char) : List Char → List Char
  | [] => []
  | c :: rest => if c = q then q :: q :: escape q rest else c :: escape q rest

/-- A character between tokens. -/
def isSpace (c : Char) : Bool := c == ' '

/-- A character of a word or a number. -/
def isWordChar (c : Char) : Bool := c.isAlphanum || c == '_'

/-- A character of an operator. -/
def isOpChar (c : Char) : Bool := "+-*/<>=~!@#%^&|".toList.contains c

/-! ## The scanner -/

/-- Where the scanner is: between tokens, inside one, or just after a quote
that either closes a quoted token or is the first half of a doubled quote. -/
inductive Mode : Type where
  | idle
  | word (acc : List Char)
  | op (acc : List Char)
  | str (acc : List Char)
  | strQuote (acc : List Char)
  | ident (acc : List Char)
  | identQuote (acc : List Char)

/-- The token that ends if the text stops here; `none` inside quotes. -/
def Mode.flush : Mode → Option (List Token)
  | .idle => some []
  | .word acc => some [.word acc]
  | .op acc => some [.op acc]
  | .strQuote acc => some [.str acc]
  | .identQuote acc => some [.ident acc]
  | .str _ => none
  | .ident _ => none

/-- The scanner's state: where it is, and the tokens before that point. -/
structure Scan where
  mode : Mode
  out : List Token

/-- Read a character at a token boundary. -/
def start (out : List Token) (c : Char) : Scan :=
  if c = '\'' then ⟨.str [], out⟩
  else if c = '"' then ⟨.ident [], out⟩
  else if isSpace c then ⟨.idle, out⟩
  else if isWordChar c then ⟨.word [c], out⟩
  else if isOpChar c then ⟨.op [c], out⟩
  else ⟨.idle, out ++ [.sym c]⟩

/-- Read one character. -/
def step (s : Scan) (c : Char) : Scan :=
  match s.mode with
  | .idle => start s.out c
  | .word acc =>
    if isWordChar c then ⟨.word (acc ++ [c]), s.out⟩ else start (s.out ++ [.word acc]) c
  | .op acc => if isOpChar c then ⟨.op (acc ++ [c]), s.out⟩ else start (s.out ++ [.op acc]) c
  | .str acc => if c = '\'' then ⟨.strQuote acc, s.out⟩ else ⟨.str (acc ++ [c]), s.out⟩
  | .strQuote acc =>
    if c = '\'' then ⟨.str (acc ++ [c]), s.out⟩ else start (s.out ++ [.str acc]) c
  | .ident acc => if c = '"' then ⟨.identQuote acc, s.out⟩ else ⟨.ident (acc ++ [c]), s.out⟩
  | .identQuote acc =>
    if c = '"' then ⟨.ident (acc ++ [c]), s.out⟩ else start (s.out ++ [.ident acc]) c

/-- Read a text. -/
def scan (s : Scan) (text : List Char) : Scan := text.foldl step s

/-- The tokens of a text; `none` when it ends inside quotes. -/
def tokens (text : List Char) : Option (List Token) :=
  let s := scan ⟨.idle, []⟩ text
  s.mode.flush.map fun last => s.out ++ last

@[simp] theorem scan_nil (s : Scan) : scan s [] = s := rfl

@[simp] theorem scan_cons (s : Scan) (c : Char) (text : List Char) :
    scan s (c :: text) = scan (step s c) text := rfl

theorem scan_append (s : Scan) (a b : List Char) : scan s (a ++ b) = scan (scan s a) b :=
  List.foldl_append ..

/-! ## Pieces of text -/

/-- Read from a token boundary, the piece gives the tokens and ends where a
token may end. -/
def Lexes (text : List Char) (toks : List Token) : Prop :=
  ∀ out, ∃ mode before last,
    scan ⟨.idle, out⟩ text = ⟨mode, before⟩ ∧ mode.flush = some last ∧ before ++ last = out ++ toks

theorem Lexes.tokens {text : List Char} {toks : List Token} (h : Lexes text toks) :
    SqlText.tokens text = some toks := by
  obtain ⟨mode, before, last, hs, hf, ho⟩ := h []
  rw [SqlText.tokens, hs]
  simp only [hf, Option.map_some, ho, List.nil_append]

theorem Lexes.nil : Lexes [] [] := fun out => ⟨.idle, out, [], rfl, rfl, rfl⟩

/-- A character that neither continues a word or an operator nor quotes ends
every pending token, as it would at a boundary. -/
theorem step_delim {mode : Mode} {before last : List Token} {c : Char}
    (hf : mode.flush = some last) (hw : isWordChar c = false) (ho : isOpChar c = false)
    (hs : c ≠ '\'') (hi : c ≠ '"') : step ⟨mode, before⟩ c = start (before ++ last) c := by
  cases mode with
  | idle =>
    cases hf
    rw [List.append_nil]
    rfl
  | word acc =>
    cases hf
    simp [step, hw]
  | op acc =>
    cases hf
    simp [step, ho]
  | strQuote acc =>
    cases hf
    simp [step, hs]
  | identQuote acc =>
    cases hf
    simp [step, hi]
  | str acc => cases hf
  | ident acc => cases hf

/-- Two pieces with a space between them. -/
theorem Lexes.space {a b : List Char} {ta tb : List Token} (ha : Lexes a ta) (hb : Lexes b tb) :
    Lexes (a ++ ' ' :: b) (ta ++ tb) := by
  intro out
  obtain ⟨mode, before, last, hs, hf, ho⟩ := ha out
  obtain ⟨mode', before', last', hs', hf', ho'⟩ := hb (out ++ ta)
  refine ⟨mode', before', last', ?_, hf', by rw [ho', List.append_assoc]⟩
  rw [scan_append, hs, scan_cons, step_delim hf (by decide) (by decide) (by decide) (by decide), ho]
  exact hs'

/-- A character that is a token of its own. -/
def IsSym (c : Char) : Prop :=
  isWordChar c = false ∧ isOpChar c = false ∧ isSpace c = false ∧ c ≠ '\'' ∧ c ≠ '"'

instance (c : Char) : Decidable (IsSym c) :=
  inferInstanceAs (Decidable (_ ∧ _ ∧ _ ∧ _ ∧ _))

theorem start_sym {c : Char} (hc : IsSym c) (out : List Token) :
    start out c = ⟨.idle, out ++ [.sym c]⟩ := by
  obtain ⟨hw, ho, hsp, hs, hi⟩ := hc
  simp [start, hw, ho, hsp, hs, hi]

/-- Two pieces with a symbol between them. -/
theorem Lexes.sym {a b : List Char} {ta tb : List Token} {c : Char} (hc : IsSym c)
    (ha : Lexes a ta) (hb : Lexes b tb) : Lexes (a ++ c :: b) (ta ++ .sym c :: tb) := by
  intro out
  obtain ⟨mode, before, last, hs, hf, ho⟩ := ha out
  obtain ⟨mode', before', last', hs', hf', ho'⟩ := hb (out ++ ta ++ [.sym c])
  refine ⟨mode', before', last', ?_, hf', by rw [ho']; simp⟩
  rw [scan_append, hs, scan_cons, step_delim hf hc.1 hc.2.1 hc.2.2.2.1 hc.2.2.2.2, ho, start_sym hc]
  exact hs'

/-- A piece that starts with a symbol. -/
theorem Lexes.sym_cons {b : List Char} {tb : List Token} {c : Char} (hc : IsSym c)
    (hb : Lexes b tb) : Lexes (c :: b) (.sym c :: tb) :=
  Lexes.sym hc Lexes.nil hb

/-- A piece that ends with a symbol. -/
theorem Lexes.sym_concat {a : List Char} {ta : List Token} {c : Char} (hc : IsSym c)
    (ha : Lexes a ta) : Lexes (a ++ [c]) (ta ++ [.sym c]) :=
  Lexes.sym hc ha Lexes.nil

theorem Lexes.space_cons {b : List Char} {tb : List Token} (hb : Lexes b tb) :
    Lexes (' ' :: b) tb :=
  Lexes.space Lexes.nil hb

theorem scan_word (rest acc : List Char) (out : List Token)
    (h : ∀ c ∈ rest, isWordChar c = true) :
    scan ⟨.word acc, out⟩ rest = ⟨.word (acc ++ rest), out⟩ := by
  induction rest generalizing acc with
  | nil => simp
  | cons c rest ih =>
    have hc : isWordChar c = true := h c (List.mem_cons_self ..)
    rw [scan_cons]
    simp only [step, hc, if_true]
    rw [ih _ fun d hd => h d (List.mem_cons_of_mem _ hd)]
    simp

theorem scan_op (rest acc : List Char) (out : List Token) (h : ∀ c ∈ rest, isOpChar c = true) :
    scan ⟨.op acc, out⟩ rest = ⟨.op (acc ++ rest), out⟩ := by
  induction rest generalizing acc with
  | nil => simp
  | cons c rest ih =>
    have hc : isOpChar c = true := h c (List.mem_cons_self ..)
    rw [scan_cons]
    simp only [step, hc, if_true]
    rw [ih _ fun d hd => h d (List.mem_cons_of_mem _ hd)]
    simp

theorem start_word {c : Char} (hc : isWordChar c = true) (out : List Token) :
    start out c = ⟨.word [c], out⟩ := by
  have hq : c ≠ '\'' := by rintro rfl; exact absurd hc (by decide)
  have hd : c ≠ '"' := by rintro rfl; exact absurd hc (by decide)
  have hs : isSpace c = false := by
    rcases hb : isSpace c with _ | _
    · rfl
    · obtain rfl : c = ' ' := by simpa [isSpace] using hb
      exact absurd hc (by decide)
  simp [start, hq, hd, hs, hc]

theorem start_op {c : Char} (hc : isOpChar c = true) (hw : isWordChar c = false)
    (out : List Token) : start out c = ⟨.op [c], out⟩ := by
  have hq : c ≠ '\'' := by rintro rfl; exact absurd hc (by decide)
  have hd : c ≠ '"' := by rintro rfl; exact absurd hc (by decide)
  have hs : isSpace c = false := by
    rcases hb : isSpace c with _ | _
    · rfl
    · obtain rfl : c = ' ' := by simpa [isSpace] using hb
      exact absurd hc (by decide)
  simp [start, hq, hd, hs, hw, hc]

/-- An unquoted word is one token. -/
theorem Lexes.word {s : List Char} (hne : s ≠ []) (hall : s.all isWordChar = true) :
    Lexes s [.word s] := by
  intro out
  have h := List.all_eq_true.mp hall
  obtain ⟨c, rest, rfl⟩ := List.exists_cons_of_ne_nil hne
  refine ⟨.word (c :: rest), out, [.word (c :: rest)], ?_, rfl, rfl⟩
  rw [scan_cons]
  simp only [step]
  rw [start_word (h c (List.mem_cons_self ..)),
    scan_word _ _ _ fun d hd => h d (List.mem_cons_of_mem _ hd)]
  rfl

/-- A character that operators are made of. -/
theorem isWordChar_of_isOpChar {c : Char} (hc : isOpChar c = true) : isWordChar c = false := by
  have hmem : c ∈ "+-*/<>=~!@#%^&|".toList := by simpa [isOpChar] using hc
  have hall : ("+-*/<>=~!@#%^&|".toList.all fun d => !isWordChar d) = true := by decide
  simpa using List.all_eq_true.mp hall c hmem

/-- An operator name is one token. -/
theorem Lexes.op {s : List Char} (hne : s ≠ []) (hall : s.all isOpChar = true) :
    Lexes s [.op s] := by
  intro out
  have h := List.all_eq_true.mp hall
  obtain ⟨c, rest, rfl⟩ := List.exists_cons_of_ne_nil hne
  have hc : isOpChar c = true := h c (List.mem_cons_self ..)
  refine ⟨.op (c :: rest), out, [.op (c :: rest)], ?_, rfl, rfl⟩
  rw [scan_cons]
  simp only [step]
  rw [start_op hc (isWordChar_of_isOpChar hc),
    scan_op _ _ _ fun d hd => h d (List.mem_cons_of_mem _ hd)]
  rfl

/-- Inside single quotes, an escaped text adds exactly the text. -/
theorem scan_str (s acc : List Char) (out : List Token) :
    scan ⟨.str acc, out⟩ (escape '\'' s) = ⟨.str (acc ++ s), out⟩ := by
  induction s generalizing acc with
  | nil => simp [escape]
  | cons c rest ih =>
    by_cases hc : c = '\''
    · subst hc
      simp only [escape, if_true, scan_cons, step]
      rw [ih]
      simp
    · simp only [escape, hc, if_false, scan_cons, step]
      rw [ih]
      simp

/-- Inside double quotes, an escaped text adds exactly the text. -/
theorem scan_ident (s acc : List Char) (out : List Token) :
    scan ⟨.ident acc, out⟩ (escape '"' s) = ⟨.ident (acc ++ s), out⟩ := by
  induction s generalizing acc with
  | nil => simp [escape]
  | cons c rest ih =>
    by_cases hc : c = '"'
    · subst hc
      simp only [escape, if_true, scan_cons, step]
      rw [ih]
      simp
    · simp only [escape, hc, if_false, scan_cons, step]
      rw [ih]
      simp

/-- A quoted string literal is one token with the text it was written from. -/
theorem Lexes.str (s : List Char) : Lexes ('\'' :: (escape '\'' s ++ ['\''])) [.str s] := by
  intro out
  refine ⟨.strQuote s, out, [.str s], ?_, rfl, rfl⟩
  rw [scan_cons, scan_append]
  simp only [step, start, if_true]
  rw [scan_str]
  rfl

/-- A quoted identifier is one token with the name it was written from. -/
theorem Lexes.ident (s : List Char) : Lexes ('"' :: (escape '"' s ++ ['"'])) [.ident s] := by
  intro out
  refine ⟨.identQuote s, out, [.ident s], ?_, rfl, rfl⟩
  rw [scan_cons, scan_append]
  have hstep : step ⟨.idle, out⟩ '"' = ⟨.ident [], out⟩ := rfl
  rw [hstep, scan_ident]
  rfl

/-! ## Parentheses -/

/-- Tokens grouped by parentheses. -/
inductive Tree : Type where
  | leaf (t : Token)
  | group (l : List Tree)

/-- The reader's state: the unclosed groups, innermost first, each with what it
holds so far. -/
abbrev Stack := List (List Tree)

/-- Put a tree into the innermost open group. -/
def Stack.push (t : Tree) : Stack → Option Stack
  | top :: rest => some ((top ++ [t]) :: rest)
  | [] => none

/-- Read one token; `none` when a parenthesis closes what was never opened. -/
def readStep (s : Stack) : Token → Option Stack
  | .sym '(' => some ([] :: s)
  | .sym ')' =>
    match s with
    | top :: rest => Stack.push (.group top) rest
    | [] => none
  | t => Stack.push (.leaf t) s

/-- Read a list of tokens. -/
def read (s : Stack) : List Token → Option Stack
  | [] => some s
  | t :: rest => (readStep s t).bind fun s' => read s' rest

/-- The trees of a token list; `none` when the parentheses do not match. -/
def trees (toks : List Token) : Option (List Tree) :=
  match read [[]] toks with
  | some [top] => some top
  | _ => none

theorem read_append (s : Stack) (a b : List Token) :
    read s (a ++ b) = (read s a).bind fun s' => read s' b := by
  induction a generalizing s with
  | nil => rfl
  | cons t rest ih =>
    rw [List.cons_append, read, read]
    cases readStep s t with
    | none => rfl
    | some s' => exact ih s'

/-- Read inside any open group, the tokens add the trees to it. -/
def Reads (toks : List Token) (ts : List Tree) : Prop :=
  ∀ top rest, read (top :: rest) toks = some ((top ++ ts) :: rest)

theorem Reads.trees {toks : List Token} {ts : List Tree} (h : Reads toks ts) :
    SqlText.trees toks = some ts := by
  rw [SqlText.trees, h [] []]
  rfl

theorem Reads.nil : Reads [] [] := by
  intro top rest
  simp [read]

theorem Reads.append {a b : List Token} {ta tb : List Tree} (ha : Reads a ta) (hb : Reads b tb) :
    Reads (a ++ b) (ta ++ tb) := by
  intro top rest
  rw [read_append, ha top rest, Option.bind_some, hb (top ++ ta) rest, List.append_assoc]

/-- A token that is not a parenthesis is a leaf. -/
theorem Reads.leaf {t : Token} (ho : t ≠ .sym '(') (hc : t ≠ .sym ')') : Reads [t] [.leaf t] := by
  intro top rest
  have hstep : readStep (top :: rest) t = Stack.push (.leaf t) (top :: rest) := by
    unfold readStep
    split
    · exact absurd rfl ho
    · exact absurd rfl hc
    · rfl
  simp [read, hstep, Stack.push]

/-- Parenthesised tokens are one group. -/
theorem Reads.group {toks : List Token} {ts : List Tree} (h : Reads toks ts) :
    Reads (.sym '(' :: (toks ++ [.sym ')'])) [.group ts] := by
  intro top rest
  rw [read]
  change read ([] :: top :: rest) (toks ++ [.sym ')']) = _
  rw [read_append, h [] (top :: rest)]
  rfl

/-! ## One literal -/

/-- Read quoted text from behind its opening quote: the text it stands for, and what follows
it. -/
def readQuoted (q : Char) : List Char → Option (List Char × List Char)
  | [] => none
  | [c] => if c = q then some ([], []) else none
  | c :: d :: rest =>
    if c = q then
      if d = q then (readQuoted q rest).map fun (s, after) => (q :: s, after)
      else some ([], d :: rest)
    else (readQuoted q (d :: rest)).map fun (s, after) => (c :: s, after)

/-- Read a string literal, where the keyword `NULL` stands for the empty string. -/
def readLiteral : List Char → Option (List Char × List Char)
  | 'N' :: 'U' :: 'L' :: 'L' :: rest => some ([], rest)
  | '\'' :: rest => readQuoted '\'' rest
  | _ => none

/-- A closing quote that is not doubled ends the quoted text. -/
theorem readQuoted_close {q : Char} {rest : List Char} (hrest : rest.head? ≠ some q) :
    readQuoted q (q :: rest) = some ([], rest) := by
  rcases rest with _ | ⟨d, rest⟩
  · exact if_pos rfl
  · have hd : d ≠ q := fun h => hrest (by rw [h, List.head?_cons])
    rw [readQuoted, if_pos rfl, if_neg hd]

/-- A character that is no quote stands for itself. -/
theorem readQuoted_cons {q c : Char} (hc : c ≠ q) (rest : List Char) :
    readQuoted q (c :: rest) = (readQuoted q rest).map fun (s, after) => (c :: s, after) := by
  rcases rest with _ | ⟨d, rest⟩
  · exact if_neg hc
  · rw [readQuoted, if_neg hc]

/-- **An escaped text is read back**, up to the quote behind it. -/
theorem readQuoted_escape {q : Char} (s : List Char) {rest : List Char}
    (hrest : rest.head? ≠ some q) : readQuoted q (escape q s ++ q :: rest) = some (s, rest) := by
  induction s with
  | nil => exact readQuoted_close hrest
  | cons c s ih =>
    rw [escape]
    by_cases hc : c = q
    · rw [if_pos hc, List.cons_append, List.cons_append, readQuoted, if_pos rfl, if_pos rfl, ih, hc]
      rfl
    · rw [if_neg hc, List.cons_append, readQuoted_cons hc, ih]
      rfl

theorem readLiteral_escape (s : List Char) {rest : List Char} (hrest : rest.head? ≠ some '\'') :
    readLiteral ('\'' :: (escape '\'' s ++ '\'' :: rest)) = some (s, rest) :=
  readQuoted_escape s hrest

/-! ## One function call -/

/-- A call of a function with two string literals. -/
structure Call where
  name : List Char
  first : List Char
  second : List Char
  deriving DecidableEq

/-- Read the name of a function and two string literals in parentheses. -/
def readCall (text : List Char) : Option (Call × List Char) :=
  match text.dropWhile isWordChar with
  | '(' :: rest =>
    if text.takeWhile isWordChar = [] then none
    else
      (readLiteral rest).bind fun (first, rest) =>
        match rest with
        | ',' :: ' ' :: rest =>
          (readLiteral rest).bind fun (second, rest) =>
            match rest with
            | ')' :: rest => some (⟨text.takeWhile isWordChar, first, second⟩, rest)
            | _ => none
        | _ => none
  | _ => none

/-- Read a call, which may stand in parentheses. -/
def readCallTerm : List Char → Option (Call × List Char)
  | '(' :: text =>
    (readCall text).bind fun (call, rest) =>
      match rest with
      | ')' :: rest => some (call, rest)
      | _ => none
  | text => readCall text

/-- The text of a call. -/
def Call.text (call : Call) : List Char :=
  call.name ++ '(' :: '\'' :: (escape '\'' call.first ++ '\'' :: ',' :: ' ' :: '\'' ::
    (escape '\'' call.second ++ ['\'', ')']))

/-- A text without quotes needs no escaping. -/
theorem escape_eq_self {q : Char} {s : List Char} (h : q ∉ s) : escape q s = s := by
  induction s with
  | nil => rfl
  | cons c s ih =>
    have hc : c ≠ q := fun heq => h (heq ▸ List.mem_cons_self ..)
    rw [escape, if_neg hc, ih fun hmem => h (List.mem_cons_of_mem _ hmem)]

/-- **A call is read back.** -/
theorem readCall_text {call : Call} (hne : call.name ≠ []) (hname : call.name.all isWordChar = true)
    (rest : List Char) : readCall (call.text ++ rest) = some (call, rest) := by
  have hall := List.all_eq_true.mp hname
  have hparen : isWordChar '(' = false := by decide
  obtain ⟨name, first, second⟩ := call
  rw [Call.text, List.append_assoc, readCall, List.dropWhile_append_of_pos hall,
    List.takeWhile_append_of_pos hall]
  simp only [List.cons_append, List.append_assoc, List.dropWhile_cons, List.takeWhile_cons, hparen,
    Bool.false_eq_true, if_false, List.append_nil, hne, List.nil_append]
  have hsecond := @readLiteral_escape second (')' :: rest) (by simp)
  have hfirst := @readLiteral_escape first
    (',' :: ' ' :: '\'' :: (escape '\'' second ++ '\'' :: ')' :: rest)) (by simp)
  simp only [hfirst, hsecond, Option.bind_some]

theorem readCallTerm_text {call : Call} (hne : call.name ≠ [])
    (hname : call.name.all isWordChar = true) (rest : List Char) :
    readCallTerm (call.text ++ rest) = some (call, rest) := by
  obtain ⟨c, name, hcons⟩ := List.exists_cons_of_ne_nil hne
  have hc : c ≠ '(' := by
    rintro rfl
    rw [hcons] at hname
    cases hname
  have hread := readCall_text hne hname rest
  rw [Call.text, hcons, List.cons_append, List.cons_append] at hread ⊢
  rw [readCallTerm]
  · exact hread
  · exact fun _ h => absurd (List.cons.inj h).1 hc

/-- A call in parentheses is read back. -/
theorem readCallTerm_parenthesised {call : Call} (hne : call.name ≠ [])
    (hname : call.name.all isWordChar = true) (rest : List Char) :
    readCallTerm ('(' :: (call.text ++ ')' :: rest)) = some (call, rest) := by
  simp only [readCallTerm, readCall_text hne hname, Option.bind_some]

end SqlText
