import EntityMapping.Proofs.TemplateGrammar
import EntityMapping.Proofs.TemplateScanning

/-! Expressions as text. Canonical trees are what expressions over ASCII parse to, decimals aside; such a tree is printed with
no more parentheses than its operators need, and parsing the print gives the tree back. -/

namespace EntityMapping.Proofs.TemplatePrinting
open Template TemplateGrammar TemplateScanning

/-- The trees that have a text: nonnegative integers, no floats, and paths of ASCII names. -/
inductive Canonical : Expression → Prop where
  | text (s : String) : Canonical (.literal (.varchar (some s)))
  | integer {n : Int64} : 0 ≤ n.toInt → Canonical (.literal (.int64 (some n)))
  | boolean (b : Bool) : Canonical (.literal (.boolean (some b)))
  | null : Canonical (.literal .null)
  | binding {first : String} {others : List String} : (∀ name ∈ first :: others, IsName name) →
      Canonical (.binding (pathText first others))
  | property {first : String} {others : List String} : (∀ name ∈ first :: others, IsName name) → lowerWord first ∉ reserved →
      Canonical (.property (pathText first others))
  | unary (op : UnaryOp) {e : Expression} : Canonical e → Canonical (.unary op e)
  | binary (op : BinaryOp) {l r : Expression} : Canonical l → Canonical r → Canonical (.binary op l r)
  | conditional {c y n : Expression} : Canonical c → Canonical y → Canonical n → Canonical (.conditional c y n)

/-- Whether no literal of a tree is a float. -/
def floatFree : Expression → Bool
  | .literal (.float32 _) | .literal (.float64 _) => false
  | .literal _ | .binding _ | .property _ => true
  | .unary _ e => floatFree e
  | .binary _ l r => floatFree l && floatFree r
  | .conditional c y n => floatFree c && floatFree y && floatFree n

/-- How tightly the outermost construct of a tree binds, on the scale of the levels. -/
def tightness : Expression → Nat
  | .conditional _ _ _ => 0
  | .binary op _ _ => op.level
  | .unary _ _ => 6
  | _ => 7

/-- The text of a subtree that must bind at least as tightly as `n`. -/
def enclosed (n : Nat) (e : Expression) (text : List Char) : List Char :=
  if tightness e < n then '(' :: text ++ [')'] else text

def unaryText : UnaryOp → List Char
  | .negative => ['-']
  | .not => ['n', 'o', 't']

def print : Expression → List Char
  | .literal (.varchar (some s)) => quoteText s.toList
  | .literal v => v.text.toList
  | .binding path => '#' :: path.toList
  | .property path => path.toList
  | .unary op e => unaryText op ++ ' ' :: enclosed 6 e (print e)
  | .binary op l r => enclosed op.level l (print l) ++ ' ' :: op.text.toList ++ ' ' :: enclosed (op.level + 1) r (print r)
  | .conditional c y n => enclosed 1 c (print c) ++ [' ', '?', ' '] ++ print y ++ [' ', ':', ' '] ++ print n

/-- What may stand after the print of a tree. -/
def Loose (rest : List Char) : Prop := ∀ c ∈ rest.head?, c = ' ' ∨ c = ')'

theorem Loose.apart {rest : List Char} (loose : Loose rest) {t : Token} (plain : Plain t) : Apart t rest := by
  cases t with
  | word s => intro c first; rcases loose c first with rfl | rfl <;> decide
  | text s => intro first; rcases loose _ first with same | same <;> cases same
  | integer n => intro c first; rcases loose c first with rfl | rfl <;> decide
  | decimal x => exact plain
  | symbol s => intro _ first; rcases loose _ first with same | same <;> cases same

/-- The scanner reads a text as these tokens, whatever loose text follows. -/
def Scans (cs : List Char) (ts : List Token) : Prop :=
  ∀ rest, Loose rest → Token.scan (cs ++ rest) = (Token.scan rest).map (ts ++ ·)

private theorem map_append (ts us : List Token) (found : Except LexicalError (List Token)) :
    (found.map (us ++ ·)).map (ts ++ ·) = found.map (ts ++ us ++ ·) := by
  cases found <;> simp [Except.map]

theorem scans_token {t : Token} (plain : Plain t) : Scans (write t) [t] := fun _ loose => scan_write plain (loose.apart plain)

theorem Scans.blank {cs ds : List Char} {ts us : List Token} (first : Scans cs ts) (second : Scans ds us) :
    Scans (cs ++ ' ' :: ds) (ts ++ us) := by
  intro rest loose
  have spaced : Loose (' ' :: (ds ++ rest)) := by rintro c ⟨⟩; exact .inl rfl
  rw [List.append_assoc, List.cons_append, first _ spaced, scan_blank rfl, second rest loose, map_append]

theorem Scans.joined {t : Token} (plain : Plain t) {cs : List Char} {ts : List Token} (inner : Scans cs ts)
    (apart : ∀ rest, Loose rest → Apart t (cs ++ rest)) : Scans (write t ++ cs) (t :: ts) := by
  intro rest loose
  rw [List.append_assoc, scan_write plain (apart rest loose), inner rest loose]
  exact map_append [t] ts _

theorem Scans.group {cs : List Char} {ts : List Token} (inner : Scans cs ts) :
    Scans ('(' :: cs ++ [')']) (.symbol .openParen :: ts ++ [.symbol .closeParen]) := by
  have closed : Scans (cs ++ [')']) (ts ++ [.symbol .closeParen]) := by
    intro rest loose
    have last : Token.scan (')' :: rest) = (Token.scan rest).map ([.symbol .closeParen] ++ ·) :=
      scans_token (t := .symbol .closeParen) trivial rest loose
    have read := inner (')' :: rest) (by rintro c ⟨⟩; exact .inr rfl)
    rw [List.append_assoc, List.singleton_append, read, last, map_append]
  exact closed.joined (t := .symbol .openParen) trivial fun _ _ => by simp [Apart, extensible]

theorem scans_path {first : String} {others : List String} (names : ∀ name ∈ first :: others, IsName name) :
    Scans (pathText first others).toList (pathTokens first others) := by
  have text : ∀ others first, (pathText first others).toList = first.toList ++ others.flatMap fun name => '.' :: name.toList := by
    intro others
    induction others with
    | nil => simp [pathText]
    | cons name others ih => intro first; simpa [pathText] using ih (first ++ "." ++ name)
  rw [text]
  induction others generalizing first with
  | nil => simpa [pathTokens, write] using scans_token (t := .word first) (names first List.mem_cons_self)
  | cons name others ih =>
    have tail : ∀ other ∈ name :: others, IsName other := fun other member => names other (List.mem_cons_of_mem _ member)
    have later := ih tail
    have member := later.joined (t := .symbol .point) trivial fun _ _ => by simp [Apart, extensible]
    refine member.joined (t := .word first) (names first List.mem_cons_self) fun rest _ => ?_
    rintro c ⟨⟩
    decide

/-- The phrase of the trees that bind at least as tightly as `n`. -/
def phraseAt : Nat → Phrase
  | 0 => .expression
  | 6 => .unary
  | 7 => .primary
  | n => .level n

private theorem derives_level {n : Nat} (least : 1 ≤ n) (greatest : n ≤ 6) {ts : List Token} {e : Expression}
    (derived : Derives (phraseAt n) ts e) : Derives (.level n) ts e := by
  match n, least, greatest with
  | 1, _, _ | 2, _, _ | 3, _, _ | 4, _, _ | 5, _, _ => exact derived
  | 6, _, _ => exact .operand derived

private theorem derives_looser {n : Nat} (le : n ≤ 6) {ts : List Token} {e : Expression}
    (derived : Derives (phraseAt (n + 1)) ts e) : Derives (phraseAt n) ts e := by
  match n, le with
  | 0, _ => exact .plain derived
  | 1, _ | 2, _ | 3, _ | 4, _ => exact .tighter derived
  | 5, _ => exact .tighter (.operand derived)
  | 6, _ => exact .primary derived

private theorem derives_mono {n m : Nat} (le : n ≤ m) (bound : m ≤ 7) {ts : List Token} {e : Expression}
    (derived : Derives (phraseAt m) ts e) : Derives (phraseAt n) ts e := by
  induction le with
  | refl => exact derived
  | step _ ih => exact ih (by omega) (derives_looser (by omega) derived)

theorem tightness_le (e : Expression) : tightness e ≤ 7 := by
  cases e with
  | binary op => have := OperatorLevels.level_bounds op; simp only [tightness]; omega
  | _ => simp [tightness]

/-- A text spells a tree where at least the tightness `n` is asked for. -/
def Spelled (n : Nat) (cs : List Char) (e : Expression) : Prop := ∃ ts, Derives (phraseAt n) ts e ∧ Scans cs ts

theorem Spelled.enclosed {n : Nat} (le : n ≤ 6) {cs : List Char} {e : Expression} (spelled : Spelled (tightness e) cs e) :
    Spelled n (enclosed n e cs) e := by
  obtain ⟨ts, derived, scans⟩ := spelled
  unfold TemplatePrinting.enclosed
  split
  · have inner := derives_mono (Nat.zero_le _) (tightness_le e) derived
    exact ⟨_, derives_mono (m := 7) (by omega) (Nat.le_refl 7) (.group inner), scans.group⟩
  · exact ⟨ts, derives_mono (by omega) (tightness_le e) derived, scans⟩

/-- The token that the text of an operator is. -/
def operatorToken : BinaryOp → Token
  | .logical op => .word (BinaryOp.logical op).text
  | op => .symbol (symbolOf op)

private theorem operatorToken_spells (op : BinaryOp) : Spells (operatorToken op) op := by
  refine (binaryOp?_eq_some_iff ..).mp ?_
  rcases op with op | op | op <;> cases op <;> rfl

theorem isName_of_ascii {s : String} (nonempty : s.toList ≠ []) (letters : s.toList.all Char.isAlpha) : IsName s := by
  have alpha := List.all_eq_true.mp letters
  exact ⟨nonempty, fun c first => .inl (alpha c (List.mem_of_head? first)), fun c member => .inl (by simp [Char.isAlphanum, alpha c member])⟩

private theorem scans_operator (op : BinaryOp) : Scans op.text.toList [operatorToken op] := by
  have written : write (operatorToken op) = op.text.toList := by
    rcases op with op | op | op <;> cases op <;> rfl
  have plain : Plain (operatorToken op) := by
    rcases op with op | op | op
    · trivial
    · trivial
    · cases op <;> exact isName_of_ascii (by decide) (by decide)
  exact written ▸ scans_token plain

private theorem spelled_unary (op : UnaryOp) {cs : List Char} {e : Expression} (spelled : Spelled 6 cs e) :
    Spelled 6 (unaryText op ++ ' ' :: cs) (.unary op e) := by
  obtain ⟨ts, derived, scans⟩ := spelled
  cases op with
  | negative => exact ⟨_, .minus derived, (scans_token (t := .symbol .minus) trivial).blank scans⟩
  | not =>
    have word : Scans (unaryText .not) [.word "not"] :=
      scans_token (t := .word "not") (isName_of_ascii (by decide) (by decide))
    exact ⟨_, .not (by decide) derived, word.blank scans⟩

private theorem phraseAt_level (op : BinaryOp) : phraseAt op.level = .level op.level := by
  rcases op with op | op | op <;> cases op <;> rfl

private theorem write_integer {n : Int64} (nonneg : 0 ≤ n.toInt) : write (.integer n) = (toString n.toInt).toList := by
  obtain ⟨k, same⟩ := Int.eq_ofNat_of_zero_le nonneg
  rw [write, same, Int.toNat_natCast]
  exact (toList_toString k).symm

theorem Canonical.spelled {e : Expression} (canonical : Canonical e) : Spelled (tightness e) (print e) e := by
  induction canonical with
  | text s => exact ⟨_, .text, scans_token (t := .text s) trivial⟩
  | @integer n nonneg =>
    have scans := scans_token (t := .integer n) nonneg
    rw [write_integer nonneg] at scans
    exact ⟨_, .integer, scans⟩
  | boolean b =>
    cases b with
    | true => exact ⟨_, .true (by decide), scans_token (t := .word "true") (isName_of_ascii (by decide) (by decide))⟩
    | false => exact ⟨_, .false (by decide), scans_token (t := .word "false") (isName_of_ascii (by decide) (by decide))⟩
  | null => exact ⟨_, .null (by decide), scans_token (t := .word "null") (isName_of_ascii (by decide) (by decide))⟩
  | binding names =>
    have path := scans_path names
    exact ⟨_, .binding, path.joined (t := .symbol .hash) trivial fun _ _ => by simp [Apart, extensible]⟩
  | property names free => exact ⟨_, .property free, scans_path names⟩
  | unary op _ ih => exact spelled_unary op (ih.enclosed (Nat.le_refl 6))
  | @binary op l r _ _ left right =>
    have bounds := OperatorLevels.level_bounds op
    obtain ⟨ts, derivedL, scansL⟩ := left.enclosed (n := op.level) (by omega)
    obtain ⟨us, derivedR, scansR⟩ := right.enclosed (n := op.level + 1) (by omega)
    have derived := Derives.binary (derives_level bounds.1 (by omega) derivedL) (operatorToken_spells op)
      ((level_eq_iff op _).mp rfl) (derives_level (by omega) (by omega) derivedR)
    rw [← phraseAt_level] at derived
    have scans := (scansL.blank (scans_operator op)).blank scansR
    rw [← List.append_cons] at scans
    exact ⟨_, derived, scans⟩
  | @conditional c y n _ _ _ first second third =>
    obtain ⟨ts, derivedC, scansC⟩ := first.enclosed (n := 1) (by omega)
    obtain ⟨us, derivedY, scansY⟩ := second
    obtain ⟨vs, derivedN, scansN⟩ := third
    have derived := Derives.conditional derivedC (derives_mono (Nat.zero_le _) (tightness_le y) derivedY)
      (derives_mono (Nat.zero_le _) (tightness_le n) derivedN)
    have asked := scansC.blank ((scans_token (t := .symbol .question) trivial).blank scansY)
    have scans := asked.blank ((scans_token (t := .symbol .colon) trivial).blank scansN)
    refine ⟨_, derived, ?_⟩
    simpa [print, write, Symbol.text] using scans

theorem Canonical.parse_print {e : Expression} (canonical : Canonical e) : Expression.parse (print e) = .ok e := by
  obtain ⟨ts, derived, scans⟩ := canonical.spelled
  have whole := scans [] (by simp [Loose])
  have empty : Token.scan [] = .ok [] := by rw [scan_step]; rfl
  rw [List.append_nil, empty] at whole
  have parsed := (derives_mono (Nat.zero_le _) (tightness_le e) derived).ofTokens
  simp only [Expression.parse, whole, Except.map, List.append_nil, parsed]

private theorem names_of_path {first : String} {others : List String}
    (plain : ∀ t ∈ pathTokens first others, Plain t ∨ ∃ x, t = .decimal x) : ∀ name ∈ first :: others, IsName name := by
  intro name member
  have named : Token.word name ∈ pathTokens first others := by
    rcases List.mem_cons.mp member with rfl | member
    · exact List.mem_cons_self
    · exact List.mem_cons_of_mem _ (List.mem_flatMap.mpr ⟨name, member, by simp⟩)
  rcases plain _ named with plain | ⟨x, same⟩
  · exact plain
  · cases same

/-- A tree that derives from plain tokens is canonical unless a float stands in it. -/
theorem canonical_of_derives {phrase : Phrase} {ts : List Token} {e : Expression} (derived : Derives phrase ts e)
    (plain : ∀ t ∈ ts, Plain t ∨ ∃ x, t = .decimal x) (free : floatFree e) : Canonical e := by
  induction derived with
  | plain _ ih | operand _ ih | tighter _ ih | primary _ ih => exact ih plain free
  | conditional _ _ _ first second third =>
    simp only [floatFree, Bool.and_eq_true] at free
    refine .conditional (first ?_ free.1.1) (second ?_ free.1.2) (third ?_ free.2) <;>
      exact fun t member => plain t (by simp [member])
  | binary _ _ _ _ left right =>
    simp only [floatFree, Bool.and_eq_true] at free
    refine .binary _ (left ?_ free.1) (right ?_ free.2) <;> exact fun t member => plain t (by simp [member])
  | bang _ ih | not _ _ ih | minus _ ih => exact .unary _ (ih (fun t member => plain t (by simp [member])) free)
  | binding => exact .binding (names_of_path fun t member => plain t (List.mem_cons_of_mem _ member))
  | property unreserved => exact .property (names_of_path plain) unreserved
  | text => exact .text _
  | @integer n =>
    rcases plain (.integer n) List.mem_cons_self with nonneg | ⟨x, same⟩
    · exact .integer nonneg
    · cases same
  | decimal => cases free
  | true | false => exact .boolean _
  | null => exact .null
  | group _ ih => exact ih (fun t member => plain t (by simp [member])) free

theorem canonical_of_parse {cs : List Char} {e : Expression} (ascii : ∀ c ∈ cs, c.toNat < 0x80)
    (parsed : Expression.parse cs = .ok e) (free : floatFree e) : Canonical e := by
  unfold Expression.parse at parsed
  split at parsed
  · cases parsed
  · next tokens scanned =>
    split at parsed
    · cases parsed
    · next whole =>
      cases parsed
      exact canonical_of_derives (derives_of_ofTokens whole) (scan_plain ascii scanned) free

/-- Parsing the print of a canonical tree gives it back, and parsing a text of ASCII characters gives a canonical tree unless
a float stands in it. -/
theorem parse_print_canonical : (∀ e, Canonical e → Expression.parse (print e) = .ok e) ∧
    ∀ cs e, (∀ c ∈ cs, c.toNat < 0x80) → Expression.parse cs = .ok e → floatFree e →
      Canonical e ∧ Expression.parse (print e) = .ok e := by
  refine ⟨fun e canonical => canonical.parse_print, fun cs e ascii parsed free => ?_⟩
  have canonical := canonical_of_parse ascii parsed free
  exact ⟨canonical, canonical.parse_print⟩

/-- An operator word as a name, parentheses on the right of a chain, and a quote inside a text. -/
theorem parse_print_sample :
    let e : Expression := .conditional (.unary .not (.property "and"))
      (.binary (.arithmetic .subtract) (.literal (.int64 (some 9)))
        (.binary (.arithmetic .subtract) (.binding (pathText "a" ["b"])) (.literal .null)))
      (.literal (.varchar (some "it's")))
    let text := "not and ? 9 - (#a.b - null) : 'it''s'".toList
    print e = text ∧ (∀ c ∈ text, c.toNat < 0x80) ∧ Expression.parse text = .ok e ∧ floatFree e ∧ Canonical e := by
  intro e text
  have canonical : Canonical e := by
    refine .conditional (.unary _ (@Canonical.property "and" [] ?_ (by decide)))
      (.binary _ (.integer (by decide)) (.binary _ (.binding ?_) .null)) (.text _)
    · simpa using isName_of_ascii (s := "and") (by decide) (by decide)
    · simpa using ⟨isName_of_ascii (s := "a") (by decide) (by decide), isName_of_ascii (s := "b") (by decide) (by decide)⟩
  have printed : print e = text := by decide
  have parsed := parse_print_canonical.1 e canonical
  rw [printed] at parsed
  have small : text.all (fun c => decide (c.toNat < 0x80)) = true := by decide
  have ascii : ∀ c ∈ text, c.toNat < 0x80 := fun c member => of_decide_eq_true (List.all_eq_true.mp small c member)
  exact ⟨printed, ascii, parsed, rfl, (parse_print_canonical.2 text e ascii parsed rfl).1⟩

end EntityMapping.Proofs.TemplatePrinting
