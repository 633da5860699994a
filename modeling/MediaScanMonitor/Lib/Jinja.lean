import MediaScanMonitor.Lib.Json

/-!
# Templates

The part of Jinja2 in which templates of JSON are written: text, `{{ name | tojson }}` and
`{{ ("a" if name else "b") | tojson }}`. `render` is `none` for a template that uses anything else. A
template that lays out the members of an object is rendered to a text of this object.
-/

namespace Jinja
open Text Json

/-! ## Expressions -/

inductive Token
  | name (s : Str)
  | string (s : Str)
  | pipe
  | opening
  | closing
deriving DecidableEq

def isNameChar (c : Char) : Bool :=
  c.isAlphanum || c = '_'

/-- A name ends here, if there is one. -/
def endName (word : Str) (tokens : List Token) : List Token :=
  if word = [] then tokens else .name word :: tokens

/-- The tokens of an expression; `quoted` is the string in which it stands, `word` the name. -/
def lex (quoted : Option Str) (word : Str) : Str → Option (List Token)
  | [] => if quoted = none then some (endName word []) else none
  | c :: rest =>
    match quoted with
    | some s =>
      if c = '"' then (lex none [] rest).map (.string s :: ·)
      else if c = '\\' then none
      else lex (some (s ++ [c])) [] rest
    | none =>
      if isNameChar c then lex none (word ++ [c]) rest
      else if c = '"' then (lex (some []) [] rest).map (endName word)
      else if c = ' ' then (lex none [] rest).map (endName word)
      else if c = '|' then (lex none [] rest).map fun tokens => endName word (.pipe :: tokens)
      else if c = '(' then (lex none [] rest).map fun tokens => endName word (.opening :: tokens)
      else if c = ')' then (lex none [] rest).map fun tokens => endName word (.closing :: tokens)
      else none

/-- Names with a meaning of their own. -/
def reserved : List Str :=
  ["true", "false", "none", "True", "False", "None", "not", "and", "or", "if", "else", "in",
    "is"].map String.toList

/-- The name of a variable. -/
def isVariable (s : Str) : Bool :=
  (s.head?.all fun c => !c.isDigit) && !reserved.contains s

inductive Expr
  | variable (name : Str)
  | choice (ifTrue name ifFalse : Str)
deriving DecidableEq

/-- An expression with its filter. -/
def expr : List Token → Option Expr
  | [.name n, .pipe, .name f] =>
    if f = "tojson".toList ∧ isVariable n then some (.variable n) else none
  | [.opening, .string a, .name i, .name n, .name e, .string b, .closing, .pipe, .name f] =>
    if i = "if".toList ∧ e = "else".toList ∧ f = "tojson".toList ∧ isVariable n then
      some (.choice a n b)
    else none
  | _ => none

/-! ## Templates -/

inductive Segment
  | text (s : Str)
  | expr (e : Expr)
deriving DecidableEq

/-- The segments of a template; `inside` an expression or not, `acc` is what has been read of it. -/
def scan (inside : Bool) (acc : Str) : Str → Option (List Segment)
  | [] => if inside then none else some [.text acc]
  | '\x7b' :: '%' :: _ => none
  | '\x7b' :: '#' :: _ => none
  | '\x7b' :: '\x7b' :: rest =>
    if inside then none else (scan true [] rest).map (.text acc :: ·)
  | '\x7d' :: '\x7d' :: rest =>
    if inside then
      ((lex none [] acc).bind expr).bind fun e => (scan false [] rest).map (.expr e :: ·)
    else scan false (acc ++ ['\x7d', '\x7d']) rest
  -- Jinja2 makes a line feed of the one and drops the other
  | '\r' :: _ => none
  | ['\n'] => none
  | c :: rest => scan inside (acc ++ [c]) rest

/-- `htmlsafe_json_dumps`, for one character of the dumped text. -/
def htmlSafe (c : Char) : Str :=
  if c = '<' ∨ c = '>' ∨ c = '&' ∨ c = '\'' then escapeUnit c.toNat else [c]

/-- The filter `tojson`, on a value that is no number and has no parts. -/
def tojson : Value → Option Str
  | .null => some ((dumps .null).flatMap htmlSafe)
  | .bool b => some ((dumps (.bool b)).flatMap htmlSafe)
  | .string s => some ((dumps (.string s)).flatMap htmlSafe)
  | _ => none

/-- The truth of such a value. -/
def truth : Value → Option Bool
  | .null => some false
  | .bool b => some b
  | .string s => some (s ≠ [])
  | _ => none

/-- The value of a name. -/
def lookup (ctx : List (Str × Value)) (name : Str) : Option Value :=
  (ctx.find? fun item => item.1 = name).map Prod.snd

lemma lookup_cons_self (ctx : List (Str × Value)) (name : Str) (v : Value) :
    lookup ((name, v) :: ctx) name = some v := by
  simp [lookup]

lemma lookup_cons_of_ne {name name' : Str} (h : name' ≠ name) (ctx : List (Str × Value))
    (v : Value) : lookup ((name', v) :: ctx) name = lookup ctx name := by
  simp [lookup, h]

/-- What the filter of an expression is applied to. -/
def Expr.value (ctx : List (Str × Value)) : Expr → Option Value
  | .variable name => lookup ctx name
  | .choice ifTrue name ifFalse =>
    ((lookup ctx name).bind truth).map fun b => .string (if b then ifTrue else ifFalse)

def Segment.render (ctx : List (Str × Value)) : Segment → Option Str
  | .text s => some s
  | .expr e => (e.value ctx).bind tojson

/-- The segments after each other. -/
def renderAll (ctx : List (Str × Value)) : List Segment → Option Str
  | [] => some []
  | segment :: segments =>
    (segment.render ctx).bind fun s => (renderAll ctx segments).map (s ++ ·)

/-- `from_string(template).render(ctx)`. -/
def render (template : Str) (ctx : List (Str × Value)) : Option Str :=
  (scan false [] template).bind (renderAll ctx)

/-! ## Objects -/

/-- What `tojson` writes for a character of a string. -/
def escape (c : Char) : Str :=
  (escapeChar c).flatMap htmlSafe

/-- A character that is safe is written as before. -/
lemma htmlSafe_of_ne {c : Char} (h : ¬(c = '<' ∨ c = '>' ∨ c = '&' ∨ c = '\'')) :
    htmlSafe c = [c] :=
  if_neg h

lemma flatMap_htmlSafe {s : Str} (h : ∀ c ∈ s, ¬(c = '<' ∨ c = '>' ∨ c = '&' ∨ c = '\'')) :
    s.flatMap htmlSafe = s := by
  induction s with
  | nil => rfl
  | cons c s ih =>
    rw [List.flatMap_cons, htmlSafe_of_ne (h c List.mem_cons_self),
      ih fun d hd => h d (List.mem_cons_of_mem c hd)]
    rfl

lemma safe_escapeUnit (u : Nat) :
    ∀ c ∈ escapeUnit u, ¬(c = '<' ∨ c = '>' ∨ c = '&' ∨ c = '\'') := by
  have hdigit : ∀ d < 16, ¬(Nat.digitChar d = '<' ∨ Nat.digitChar d = '>' ∨
      Nat.digitChar d = '&' ∨ Nat.digitChar d = '\'') := by decide
  intro c hc
  simp only [escapeUnit, List.mem_cons, List.not_mem_nil, or_false] at hc
  rcases hc with rfl | rfl | rfl | rfl | rfl | rfl
  · decide
  · decide
  all_goals exact hdigit _ (Nat.mod_lt _ (by decide))

/-- What stands for another character is safe. -/
lemma safe_escapeChar {c : Char} (h : ¬(c = '<' ∨ c = '>' ∨ c = '&' ∨ c = '\'')) :
    ∀ d ∈ escapeChar c, ¬(d = '<' ∨ d = '>' ∨ d = '&' ∨ d = '\'') := by
  unfold escapeChar
  split_ifs
  · simp
  · simp
  · simp
  · simp
  · simp
  · simp
  · simp
  · intro d hd
    rw [List.mem_singleton.1 hd]
    exact h
  · intro d hd
    obtain ⟨u, -, hu⟩ := List.mem_flatMap.1 hd
    exact safe_escapeUnit u d hu

/-- Each of the four is written as itself by `dumps`, and in hexadecimal by the filter. -/
lemma escape_unsafe {c : Char} (h : c = '<' ∨ c = '>' ∨ c = '&' ∨ c = '\'') :
    escape c = escapeUnit c.toNat ∧ utf16 c = [c.toNat] ∧ c.toNat < 0x10000 := by
  rcases h with rfl | rfl | rfl | rfl <;> exact ⟨rfl, rfl, by decide⟩

lemma escapes_escape : Escapes escape := by
  intro c us body hbody
  by_cases h : c = '<' ∨ c = '>' ∨ c = '&' ∨ c = '\''
  · obtain ⟨hescape, hutf, hlt⟩ := escape_unsafe h
    rw [hescape, hutf]
    exact chars_escapeUnit hlt hbody
  · rw [escape, flatMap_htmlSafe (safe_escapeChar h)]
    exact escapes_escapeChar c us body hbody

/-- The filter quotes a string in its own way. -/
lemma tojson_string (s : Str) : tojson (.string s) = some (quoteWith escape s) := by
  have hquote : htmlSafe '"' = ['"'] := htmlSafe_of_ne (by decide)
  show some ((quoteWith escapeChar s).flatMap htmlSafe) = _
  rw [quoteWith, List.flatMap_cons, List.flatMap_append, List.flatMap_singleton, hquote,
    List.flatMap_assoc]
  rfl

/-- The filter writes a text of its value. -/
lemma denotes_tojson {v : Value} {t : Str} (h : tojson v = some t) : Denotes (.value v) t := by
  cases v with
  | null =>
    cases h
    exact .null
  | bool b =>
    cases h
    cases b
    · exact .false
    · exact .true
  | string s =>
    rw [tojson_string] at h
    cases h
    exact escapes_escape.denotes s
  | _ => cases h

lemma printable_htmlSafe {s : Str} (h : s.all isPrintable = true) :
    (s.flatMap htmlSafe).all isPrintable = true := by
  rw [List.all_flatMap]
  apply List.all_eq_true.2
  intro c hc
  unfold htmlSafe
  split
  · exact printable_escapeUnit c.toNat
  · rw [List.all_cons, List.all_eq_true.1 h c hc]
    rfl

/-- The filter writes printable ASCII. -/
lemma printable_tojson {v : Value} {t : Str} (h : tojson v = some t) :
    t.all isPrintable = true := by
  cases v with
  | null =>
    cases h
    exact printable_htmlSafe (printable_dumps _)
  | bool b =>
    cases h
    exact printable_htmlSafe (printable_dumps _)
  | string s =>
    cases h
    exact printable_htmlSafe (printable_dumps _)
  | _ => cases h

/-- The values that the filter takes. -/
def Plain (ms : List (Str × Value)) : Prop :=
  ∀ m ∈ ms, (tojson m.2).isSome = true

/-- Members, each on a line of its own. -/
def layout : List (Str × Value) → Str
  | [] => []
  | [(k, v)] =>
    "\n  ".toList ++ quoteWith escapeChar k ++ ": ".toList ++ (tojson v).getD [] ++ ['\n']
  | (k, v) :: ms =>
    "\n  ".toList ++ quoteWith escapeChar k ++ ": ".toList ++ (tojson v).getD [] ++ [','] ++
      layout ms

/-- The text of an object. -/
def object (ms : List (Str × Value)) : Str :=
  '\x7b' :: (layout ms ++ ['\x7d'])

lemma tojson_getD {v : Value} (h : (tojson v).isSome = true) :
    tojson v = some ((tojson v).getD []) := by
  obtain ⟨t, ht⟩ := Option.isSome_iff_exists.1 h
  rw [ht]
  rfl

lemma denotes_layout {ms : List (Str × Value)} (h : Plain ms) (hne : ms ≠ []) :
    Denotes (.members ms) (layout ms) := by
  have hspace : Space "\n  ".toList := rfl
  induction ms with
  | nil => exact absurd rfl hne
  | cons m ms ih =>
    obtain ⟨k, v⟩ := m
    have hv := denotes_tojson (tojson_getD (h (k, v) List.mem_cons_self))
    cases ms with
    | nil =>
      have hmember := escapes_escapeChar.member (k := k) hspace hv (show Space ['\n'] from rfl)
      simpa [layout] using hmember
    | cons m' ms =>
      have hrest := ih (fun m hm => h m (List.mem_cons_of_mem _ hm)) (List.cons_ne_nil m' ms)
      have hmembers := escapes_escapeChar.members (k := k) hspace hv space_nil hrest
      simpa [layout] using hmembers

/-- An object that is laid out is loaded with these members. -/
theorem loads_object {ms : List (Str × Value)} (h : Plain ms) (hne : ms ≠ []) :
    loads (object ms) = some (.object ms) := by
  have hloads := loads_of_denotes space_nil (.object (denotes_layout h hne)) space_nil
  rwa [List.nil_append, List.append_nil] at hloads

lemma isAscii_of_printable {s : Str} (h : s.all isPrintable = true) : ∀ c ∈ s, c.toNat < 128 := by
  intro c hc
  have hchar := List.all_eq_true.1 h c hc
  simp only [isPrintable, Bool.and_eq_true, decide_eq_true_eq] at hchar
  omega

lemma isAscii_of_all {s : Str} (h : s.all (fun c => c.toNat < 128) = true) :
    ∀ c ∈ s, c.toNat < 128 :=
  fun c hc => of_decide_eq_true (List.all_eq_true.1 h c hc)

/-- ASCII, with line feeds. -/
lemma ascii_layout {ms : List (Str × Value)} (h : Plain ms) :
    ∀ c ∈ layout ms, c.toNat < 128 := by
  have hfront : ∀ c ∈ "\n  ".toList, c.toNat < 128 := isAscii_of_all (by decide)
  have hmiddle : ∀ c ∈ ": ".toList, c.toNat < 128 := isAscii_of_all (by decide)
  induction ms with
  | nil => exact fun _ hc => by cases hc
  | cons m ms ih =>
    obtain ⟨k, v⟩ := m
    have hk := isAscii_of_printable (printable_quoteWith k)
    have hv := isAscii_of_printable (printable_tojson (tojson_getD (h (k, v) List.mem_cons_self)))
    intro c hc
    cases ms with
    | nil =>
      simp only [layout, List.mem_append, List.mem_singleton] at hc
      rcases hc with (((hc | hc) | hc) | hc) | rfl
      · exact hfront c hc
      · exact hk c hc
      · exact hmiddle c hc
      · exact hv c hc
      · decide
    | cons m' ms =>
      simp only [layout, List.mem_append, List.mem_singleton] at hc
      rcases hc with ((((hc | hc) | hc) | hc) | rfl) | hc
      · exact hfront c hc
      · exact hk c hc
      · exact hmiddle c hc
      · exact hv c hc
      · decide
      · exact ih (fun m hm => h m (List.mem_cons_of_mem _ hm)) c hc

theorem ascii_object {ms : List (Str × Value)} (h : Plain ms) :
    ∀ c ∈ object ms, c.toNat < 128 := by
  intro c hc
  rcases List.mem_cons.1 hc with rfl | hc
  · decide
  rcases List.mem_append.1 hc with hc | hc
  · exact ascii_layout h c hc
  · rw [List.mem_singleton.1 hc]
    decide

/-- The segments of a template that lays out members, with what stands in front of the first. -/
def objectSegments (front : Str) : List (Str × Expr) → List Segment
  | [] => [.text "\n\x7d".toList]
  | (k, e) :: fields =>
    .text (front ++ "\n  ".toList ++ quoteWith escapeChar k ++ ": ".toList) :: .expr e ::
      objectSegments [','] fields

/-- The members that such a template is about. -/
def Members (ctx ms : List (Str × Value)) (fields : List (Str × Expr)) : Prop :=
  List.Forall₂ (fun m f => m.1 = f.1 ∧ f.2.value ctx = some m.2) ms fields

lemma renderAll_objectSegments {ctx ms : List (Str × Value)} {fields : List (Str × Expr)}
    (h : Members ctx ms fields) (hplain : Plain ms) (hne : ms ≠ []) (front : Str) :
    renderAll ctx (objectSegments front fields) = some (front ++ (layout ms ++ ['\x7d'])) := by
  induction h generalizing front with
  | nil => exact absurd rfl hne
  | @cons m f ms fields hmf hrest ih =>
    obtain ⟨k, v⟩ := m
    obtain ⟨_, e⟩ := f
    obtain ⟨rfl, hvalue⟩ := hmf
    have hrender : Segment.render ctx (.expr e) = some ((tojson v).getD []) := by
      rw [Segment.render, hvalue]
      exact tojson_getD (hplain _ List.mem_cons_self)
    cases hrest with
    | nil =>
      simp only [objectSegments, renderAll, hrender]
      simp [Segment.render, layout]
    | @cons m' f' ms fields hmf' hrest =>
      have hall := ih (fun m hm => hplain m (List.mem_cons_of_mem _ hm)) (List.cons_ne_nil m' ms)
        [',']
      rw [objectSegments, renderAll, renderAll, hrender, hall]
      simp [Segment.render, layout]

/-- A template that lays out an object is rendered to the text of the object. -/
theorem render_object {template : Str} {ctx ms : List (Str × Value)} {fields : List (Str × Expr)}
    (hscan : scan false [] template = some (objectSegments ['\x7b'] fields))
    (h : Members ctx ms fields) (hplain : Plain ms) (hne : ms ≠ []) :
    render template ctx = some (object ms) := by
  rw [render, hscan]
  exact renderAll_objectSegments h hplain hne ['\x7b']

end Jinja
