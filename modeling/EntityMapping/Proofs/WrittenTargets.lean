import EntityMapping.Proofs.SourceReaders
import EntityMapping.Source.FieldType
import EntityMapping.Source.Grammar
import EntityMapping.Value.Conversion
import Mathlib

/-! Types that values are converted to, as they are written in source text. What a mapping makes of such a text is what the
conversion to the type does. -/

namespace EntityMapping.Proofs.WrittenTargets
open Source Text SourceReaders

def typeName : Scalar → String
  | .bool => "bool"
  | .int32 => "i32"
  | .int64 => "i64"
  | .float32 => "f32"
  | .float64 => "f64"
  | .text => "String"
  | .date => "Date"
  | .timestamp => "PrimitiveDateTime"
  | .uuid => "Uuid"

/-- A character that may stand between tokens: a blank, or one of the marks for a direction of writing. -/
def isGap (c : Char) : Bool := isBlank c || c == '\u200e' || c == '\u200f'

def Gap (cs : List Char) : Prop := ∀ c ∈ cs, isGap c

theorem gap_nil : Gap [] := nofun

/-- A text without its gaps. -/
def withoutGaps (s : String) : String := String.ofList (s.toList.filter (!isGap ·))

/-- What a type is wrapped in. -/
inductive Wrapper where
  | option
  | box

namespace Wrapper

def name : Wrapper → String
  | option => "Option"
  | box => "Box"

def target : Wrapper → Target → Target
  | option => .optional
  | box => .boxed

end Wrapper

/-- The texts of a type, with gaps wherever they may be. -/
inductive Spells : Target → List Char → Prop where
  | scalar (s : Scalar) : Spells (.scalar s) (typeName s).toList
  | wrapped (f : Wrapper) {t : Target} {gap cs : List Char} : Gap gap → Spells t cs →
      Spells (f.target t) (f.name.toList ++ (gap ++ '<' :: (cs ++ ['>'])))
  | apart {t : Target} {before cs behind : List Char} : Gap before → Spells t cs → Gap behind →
      Spells t (before ++ (cs ++ behind))

/-- The tokens of a type, whether its brackets touch other symbols or not. -/
inductive Lexed : Target → List Token → Prop where
  | scalar (s : Scalar) : Lexed (.scalar s) [.word (typeName s)]
  | wrapped (f : Wrapper) {t : Target} {tokens : List Token} (opens closes : Bool) : Lexed t tokens →
      Lexed (f.target t) (.word f.name :: .symbol '<' opens :: (tokens ++ [.symbol '>' closes]))

section Scanning
variable {c : Char} {cs gap rest : List Char} {w : String}

private def gapCodes : List Nat :=
  [0x09, 0x0a, 0x0b, 0x0c, 0x0d, 0x20, 0x85, 0xa0, 0x1680, 0x2000, 0x2001, 0x2002, 0x2003, 0x2004, 0x2005, 0x2006, 0x2007,
    0x2008, 0x2009, 0x200a, 0x200e, 0x200f, 0x2028, 0x2029, 0x202f, 0x205f, 0x3000]

private theorem mem_gapCodes (blank : isGap c) : c.toNat ∈ gapCodes := by
  simp only [isGap, isBlank, Bool.or_eq_true, Bool.and_eq_true, decide_eq_true_eq, beq_iff_eq] at blank
  rcases blank with (blank | rfl) | rfl
  · simp only [gapCodes, List.mem_cons, List.not_mem_nil, or_false]
    omega
  · decide
  · decide

private theorem isNamePart_gapCodes : ∀ n ∈ gapCodes, isNamePart (Char.ofNat n) = false := by decide +kernel

/-- No name goes on with what follows. -/
def Stops (rest : List Char) : Prop := ∀ c ∈ rest.head?, isNamePart c = false

theorem isNamePart_gap (blank : isGap c) : isNamePart c = false := by
  have apart := isNamePart_gapCodes _ (mem_gapCodes blank)
  rwa [Char.ofNat_toNat] at apart

theorem stops_gap (blanks : Gap gap) (stops : Stops rest) : Stops (gap ++ rest) := by
  cases gap with
  | nil => exact stops
  | cons c gap =>
    rintro _ ⟨⟩
    exact isNamePart_gap (blanks c List.mem_cons_self)

theorem stops_cons (other : isNamePart c = false) (rest : List Char) : Stops (c :: rest) := by
  rintro _ ⟨⟩
  exact other

/-- The scanner takes tokens from the front of a text and goes on with the rest. -/
def Scans (cs : List Char) (tokens : List Token) (rest : List Char) : Prop :=
  Token.scan? cs = (Token.scan? rest).map (tokens ++ ·)

theorem Scans.trans {tokens more : List Token} {after : List Char} (first : Scans cs tokens rest)
    (second : Scans rest more after) : Scans cs (tokens ++ more) after := by
  rw [Scans, first, second, Option.map_map]
  congr 1
  funext others
  exact (List.append_assoc _ _ _).symm

theorem scans_some {tokens : List Token} (taken : Token.some? cs = some (tokens, rest)) (shorter : rest.length < cs.length) :
    Scans cs tokens rest := by
  rw [Scans, Token.scan?, if_neg (by cases cs <;> simp_all), taken]
  exact if_pos shorter

theorem scans_cons {tokens : List Token} (taken : Token.some? (c :: rest) = some (tokens, rest)) :
    Scans (c :: rest) tokens rest :=
  scans_some taken (Nat.lt_succ_self _)

theorem scans_cons_gap (blank : isGap c) (rest : List Char) : Scans (c :: rest) [] rest := by
  have slash : c ≠ '/' := by
    rintro rfl
    exact absurd blank (by decide)
  refine scans_cons ?_
  unfold Token.some?
  split
  · next same => cases same
  · next same => cases same; exact absurd rfl slash
  · next same => cases same; exact absurd rfl slash
  · next same => cases same; exact if_pos blank

theorem scans_gap (blanks : Gap gap) (rest : List Char) : Scans (gap ++ rest) [] rest := by
  induction gap with
  | nil => exact Option.map_id'.symm
  | cons c gap ih =>
    obtain ⟨blank, blanks⟩ := List.forall_mem_cons.mp blanks
    exact (scans_cons_gap blank _).trans (ih blanks)

/-- The words that types are made of. -/
def typeWords : List String :=
  ["Option", "Box", "bool", "i32", "i64", "f32", "f64", "String", "Date", "PrimitiveDateTime", "Uuid"]

theorem typeName_mem (s : Scalar) : typeName s ∈ typeWords := by cases s <;> decide

theorem wrapperName_mem (f : Wrapper) : f.name ∈ typeWords := by cases f <;> decide

private theorem typeWords_shape :
    typeWords.all (fun w => w.toList.head?.any isNameStart && w.toList.all isNamePart) = true := by decide +kernel

theorem plainName?_word (known : w ∈ typeWords) (stops : Stops rest) :
    Lexeme.plainName? (w.toList ++ rest) = some (w, rest) := by
  have shape := List.all_eq_true.mp typeWords_shape w known
  obtain ⟨start, parts⟩ := Bool.and_eq_true_iff.mp shape
  have none : rest.takeWhile isNamePart = [] ∧ rest.dropWhile isNamePart = rest := by
    cases rest with
    | nil => exact ⟨rfl, rfl⟩
    | cons c rest => simp [stops c rfl]
  cases letters : w.toList with
  | nil => rw [letters] at start; cases start
  | cons c cs =>
    rw [letters] at start parts
    obtain ⟨_, parts⟩ := List.forall_mem_cons.mp (List.all_eq_true.mp parts)
    have start : isNameStart c = true := start
    rw [List.cons_append, Lexeme.plainName?, if_pos start, List.takeWhile_append_of_pos parts,
      List.dropWhile_append_of_pos parts, none.1, none.2, List.append_nil, ← letters, String.ofList_toList]

/-- None of the words could be the start of a literal or of a raw name. -/
theorem some?_word (known : w ∈ typeWords) (stops : Stops rest) : Token.some? (w.toList ++ rest) = some ([.word w], rest) := by
  have name : Token.some? (w.toList ++ rest) =
      (Lexeme.plainName? (w.toList ++ rest)).map fun found => ([.word found.1], found.2) := by
    simp only [typeWords, List.mem_cons, List.not_mem_nil, or_false] at known
    rcases known with rfl | rfl | rfl | rfl | rfl | rfl | rfl | rfl | rfl | rfl | rfl
    all_goals rfl
  rw [name, plainName?_word known stops]
  rfl

theorem scans_word (known : w ∈ typeWords) (stops : Stops rest) : Scans (w.toList ++ rest) [.word w] rest := by
  refine scans_some (some?_word known stops) ?_
  have shape := List.all_eq_true.mp typeWords_shape w known
  cases letters : w.toList with
  | nil => rw [letters] at shape; cases shape
  | cons c cs =>
    rw [List.length_append, List.length_cons]
    omega

theorem scans_opens (rest : List Char) : ∃ joint, Scans ('<' :: rest) [.symbol '<' joint] rest := ⟨_, scans_cons rfl⟩

theorem scans_closes (rest : List Char) : ∃ joint, Scans ('>' :: rest) [.symbol '>' joint] rest := ⟨_, scans_cons rfl⟩

theorem scans_spelled {t : Target} (spelled : Spells t cs) (stops : Stops rest) :
    ∃ tokens, Lexed t tokens ∧ Scans (cs ++ rest) tokens rest := by
  have less : isNamePart '<' = false := by decide
  have greater : isNamePart '>' = false := by decide
  induction spelled generalizing rest with
  | scalar s => exact ⟨_, .scalar s, scans_word (typeName_mem s) stops⟩
  | @wrapped f _ gap cs blanks _ ih =>
    obtain ⟨tokens, lexed, inner⟩ := ih (stops_cons greater rest)
    have word := scans_word (wrapperName_mem f) (stops_gap blanks (stops_cons less (cs ++ '>' :: rest)))
    obtain ⟨opens, opening⟩ := scans_opens (cs ++ '>' :: rest)
    obtain ⟨closes, closing⟩ := scans_closes rest
    refine ⟨_, .wrapped f opens closes lexed, ?_⟩
    have whole := word.trans ((scans_gap blanks _).trans (opening.trans (inner.trans closing)))
    simpa using whole
  | apart before _ behind ih =>
    obtain ⟨tokens, lexed, inner⟩ := ih (stops_gap behind stops)
    refine ⟨tokens, lexed, ?_⟩
    have whole := (scans_gap before _).trans (inner.trans (scans_gap behind rest))
    simpa using whole

end Scanning

section Reading
open Reader
variable {g : Grammar} {segment : Segment} {w s : String} {tokens rest : List Token} {t : Target}

/-- What may follow a type: nothing, or the bracket that closes the arguments it is among. -/
inductive Ends : List Token → Prop where
  | nil : Ends []
  | closes (joint : Bool) (rest : List Token) : Ends (.symbol '>' joint :: rest)

/-- What a type could go on with does not follow. -/
theorem Ends.others (ends : Ends rest) : ∀ s ∈ ["+", "::", "!", "<", "=", ":"], atSymbols s rest = false := by
  cases ends with
  | nil => decide
  | closes joint rest =>
    simp only [List.forall_mem_cons]
    cases joint <;> exact ⟨rfl, rfl, rfl, rfl, rfl, rfl, nofun⟩

section Names
variable (name : w ∉ keywords) (tokens : List Token)
include name

theorem atWord_name {k : String} (key : k ∈ keywords) : atWord k (.word w :: tokens) = false := by
  rw [atWord, beq_eq_false_iff_ne]
  exact fun same => name (same ▸ key)

theorem atName_name : atName (.word w :: tokens) = true := by
  simp [atName, name]

theorem atPlace_name : atPlace (.word w :: tokens) = false := by
  have keys : ∀ k ∈ ["super", "self", "crate", "try"], k ∈ keywords := by decide
  exact List.any_eq_false.mpr fun k place => by simp [atWord_name name tokens (keys k place)]

theorem atPointer_name : atPointer (.word w :: tokens) = false := by
  have keys : ∀ k ∈ ["fn", "unsafe", "extern"], k ∈ keywords := by decide
  exact List.any_eq_false.mpr fun k pointer => by simp [atWord_name name tokens (keys k pointer)]

theorem reads_name : Reads Reader.name (.word w :: tokens) w w tokens :=
  (reads_taking (atName_name name tokens)).map Token.source

end Names

theorem reads_segment (name : w ∉ keywords) (ends : Ends rest) :
    Reads (Reader.segment g true) (.word w :: rest) ⟨w, none, ""⟩ w rest := by
  have plain : (atSymbols "<" rest && !atSymbols "<=" rest || atColonsThen (atSymbols "<") rest) = false := by
    simp [atColonsThen, ends.others]
  refine Reads.elseBranch (atPlace_name name rest) (Reads.elseBranch (atWord_name name rest (by decide)) ?_)
  refine (reads_name name rest).after ?_
  exact Reads.elseBranch plain (reads_pure _ rest)

theorem reads_segment_applied {list : List Argument} (name : w ∉ keywords)
    (opens : (atSymbols "<" tokens && !atSymbols "<=" tokens) = true) (read : Reads (arguments g) tokens list s rest) :
    Reads (Reader.segment g true) (.word w :: tokens) ⟨w, some list, s⟩ (w ++ s) rest := by
  have applied : (atSymbols "<" tokens && !atSymbols "<=" tokens || atColonsThen (atSymbols "<") tokens) = true := by
    rw [opens, Bool.true_or]
  refine Reads.elseBranch (atPlace_name name tokens) (Reads.elseBranch (atWord_name name tokens (by decide)) ?_)
  refine (reads_name name tokens).bind ?_
  refine Reads.thenBranch applied (read.captured.before ?_)
  exact (reads_write s rest).after (reads_pure _ rest)

/-- A path of one name. -/
def single (segment : Segment) : ReadPath := (ReadPath.start false false "").add "" segment

theorem reads_path (read : Reads (Reader.segment g true) (.word w :: tokens) segment s rest)
    (ends : Ends rest) : Reads (path g true) (.word w :: tokens) (single segment) s rest := by
  have stops : (atSymbols "::" rest && !atColonsThen (atOpening '(') rest) = false := by simp [ends.others]
  refine (reads_whenAt_false rfl (symbols "::")).before (read.after ?_)
  exact reads_iterate_last (Reads.elseBranch stops (reads_pure none rest))

theorem reads_pathType (read : Reads (Reader.segment g true) (.word w :: tokens) segment s rest)
    (ends : Ends rest) :
    Reads (pathType g true false "") (.word w :: tokens) (.path (single segment)) (single segment).path.source rest := by
  have path : Reads (anyPath g true) (.word w :: tokens) (single segment) s rest := Reads.elseBranch rfl (reads_path read ends)
  have plain : atMacro (single segment) rest = false := by simp [atMacro, ends.others]
  have last : atSymbols "+" rest = false := ends.others "+" (by decide)
  have alone : Reads (next fun tokens => true && atSymbols "+" tokens) rest false "" rest := last ▸ reads_next _ rest
  have more : Reads (moreBounds g false false) rest [] "" rest :=
    reads_many_nil ((reads_whenAt_false last (symbols "+")).before (reads_pure none rest))
  have written : Reads (write ("" ++ (single segment).path.source)) rest () (single segment).path.source rest :=
    String.empty_append ▸ reads_write _ rest
  refine path.captured.before (Reads.elseBranch plain ?_)
  refine written.after (alone.before (more.before ?_))
  exact reads_pure _ rest

/-- A type that is a path of one name. -/
theorem reads_type (name : w ∉ keywords)
    (read : Reads (Reader.segment g true) (.word w :: tokens) segment s rest) (ends : Ends rest) :
    Reads (type g true) (.word w :: tokens) (.path (single segment)) (single segment).path.source rest := by
  have atPath : atTypePath (.word w :: tokens) = true := by simp [atTypePath, atModuleName, atName_name name]
  have closed : atWord "for" (.word w :: tokens) = false := atWord_name name tokens (by decide)
  refine (reads_whenAt_false closed (binder g)).captured.before ?_
  refine Reads.elseBranch rfl (Reads.elseBranch rfl (Reads.elseBranch (atPointer_name name tokens) ?_))
  exact Reads.thenBranch atPath (reads_pathType read ends)

theorem reads_writtenType {shape : TypeShape} (read : Reads (g.typeShape true) tokens shape s rest) :
    Reads g.writtenType tokens (shape.written s) s rest :=
  read.captured.before ((reads_write s rest).after (reads_pure _ rest))

theorem isSingle_single (segment : Segment) : (single segment).written.path?.any WrittenPath.isSingle = true := by
  unfold ReadPath.written
  split <;> rfl

theorem source_single (segment : Segment) : (single segment).written.source = (single segment).path.source := by
  unfold ReadPath.written
  split <;> rfl

/-- An argument that is a path of one name. -/
theorem reads_argument (name : w ∉ keywords)
    (read : Reads (g.typeShape true) (.word w :: tokens) (.path (single segment)) s rest) (ends : Ends rest) :
    Reads (argument g) (.word w :: tokens) (.type (single segment).written) s rest := by
  have type : atConstant (.word w :: tokens) = false := by
    have yes : w ≠ "true" := fun same => name (same ▸ by decide)
    have no : w ≠ "false" := fun same => name (same ▸ by decide)
    simp [atConstant, atLiteral, atOpening, yes, no]
  refine Reads.elseBranch rfl (Reads.elseBranch type ((reads_writtenType read).after ?_))
  simp only [TypeShape.written, isSingle_single, Bool.not_true, Bool.false_eq_true, if_false]
  refine (reads_whenAt_false (ends.others "=" (by decide)) (symbols "=")).before ?_
  refine (reads_whenAt_false (ends.others ":" (by decide)) (symbols ":")).before ?_
  exact reads_pure _ rest

/-- A type between brackets. -/
theorem reads_arguments (opens closes : Bool) {tokens rest : List Token} (name : w ∉ keywords)
    (read : Reads (g.typeShape true) (.word w :: (tokens ++ .symbol '>' closes :: rest)) (.path (single segment)) s
      (.symbol '>' closes :: rest)) :
    Reads (arguments g) (.symbol '<' opens :: .word w :: (tokens ++ .symbol '>' closes :: rest))
      [.type (single segment).written] ("<" ++ (s ++ ">")) rest := by
  have plain : atSymbols "::" (.symbol '<' opens :: .word w :: (tokens ++ .symbol '>' closes :: rest)) = false := by
    cases opens <;> rfl
  have type := reads_argument name read (.closes closes rest)
  have shorter : rest.length + 1 < (tokens ++ .symbol '>' closes :: rest).length + 1 := by
    rw [List.length_append, List.length_cons]
    omega
  have parts : Reads (parts (atSymbols ">") (argument g)) _ _ "" _ := reads_parts_single type shorter rfl rfl
  refine (reads_whenAt_false plain (symbols "::")).before (Reads.bind (a := ()) (s := "<") rfl ?_)
  refine parts.before ((reads_writeParts_single rfl s _).bind ?_)
  exact Reads.after (a := ()) rfl (reads_pure _ rest)

/-- A name that is applied to a type. -/
def appliedTo (argument : Segment) (name : String) : Segment :=
  ⟨name, some [.type (single argument).written], "<" ++ ((single argument).path.source ++ ">")⟩

/-- The name of a type, with what it is applied to. -/
def segmentOf : Target → Segment
  | .scalar s => ⟨typeName s, none, ""⟩
  | .optional t => appliedTo (segmentOf t) "Option"
  | .boxed t => appliedTo (segmentOf t) "Box"

theorem segmentOf_wrapped (f : Wrapper) (t : Target) : segmentOf (f.target t) = appliedTo (segmentOf t) f.name := by
  cases f <;> rfl

private theorem not_keyword : ∀ w ∈ typeWords, w ∉ keywords := by decide

theorem lexed_word (lexed : Lexed t tokens) : ∃ w more, w ∈ typeWords ∧ tokens = .word w :: more := by
  cases lexed with
  | scalar s => exact ⟨_, _, typeName_mem s, rfl⟩
  | wrapped f => exact ⟨_, _, wrapperName_mem f, rfl⟩

theorem reads_wrapped {depth : Nat} (f : Wrapper) (opens : Bool) {closes : Bool} (lexed : Lexed t tokens)
    (read : Reads (type (.ofDepth depth) true) (tokens ++ .symbol '>' closes :: rest) (.path (single (segmentOf t)))
      (single (segmentOf t)).path.source (.symbol '>' closes :: rest)) (ends : Ends rest) :
    Reads (type (.ofDepth (depth + 1)) true) (.word f.name :: .symbol '<' opens :: (tokens ++ .symbol '>' closes :: rest))
      (.path (single (segmentOf (f.target t)))) (single (segmentOf (f.target t))).path.source rest := by
  rw [segmentOf_wrapped]
  have name := not_keyword _ (wrapperName_mem f)
  obtain ⟨inner, more, known, rfl⟩ := lexed_word lexed
  have opening : (atSymbols "<" (.symbol '<' opens :: .word inner :: (more ++ .symbol '>' closes :: rest)) &&
      !atSymbols "<=" (.symbol '<' opens :: .word inner :: (more ++ .symbol '>' closes :: rest))) = true := by
    cases opens <;> rfl
  have arguments := reads_arguments (g := .ofDepth (depth + 1)) opens closes (not_keyword inner known) read
  exact reads_type name (reads_segment_applied name opening arguments) ends

/-- The tokens of a type are read as the path that they are, by a grammar that is as deep as they are many. -/
theorem reads_lexed {depth : Nat} (lexed : Lexed t tokens) (deep : tokens.length ≤ depth) (ends : Ends rest) :
    Reads (type (.ofDepth depth) true) (tokens ++ rest) (.path (single (segmentOf t)))
      (single (segmentOf t)).path.source rest := by
  induction lexed generalizing depth rest with
  | scalar s =>
    have name := not_keyword _ (typeName_mem s)
    exact reads_type name (reads_segment name ends) ends
  | @wrapped f _ tokens opens closes lexed ih =>
    cases depth with
    | zero => exact absurd deep (Nat.not_succ_le_zero _)
    | succ depth =>
      have inside : tokens.length ≤ depth := by
        rw [List.length_cons, List.length_cons, List.length_append] at deep
        omega
      simpa using reads_wrapped f opens lexed (ih inside (.closes closes rest)) ends

theorem balanced_lexed (lexed : Lexed t tokens) (opened : List Char) (rest : List Token) :
    Token.balanced opened (tokens ++ rest) = Token.balanced opened rest := by
  induction lexed generalizing rest with
  | scalar => rfl
  | wrapped _ _ _ _ ih =>
    rw [List.cons_append, List.cons_append, List.append_assoc]
    exact ih _

end Reading

section Sources
variable {t : Target} {source : String}

private theorem gap_mark {cs : List Char} (blanks : Gap cs) : '\ufeff' ∉ cs :=
  fun member => absurd (blanks _ member) (by decide)

private theorem spells_mark {cs : List Char} (spelled : Spells t cs) : '\ufeff' ∉ cs := by
  induction spelled with
  | scalar s => cases s <;> decide
  | wrapped f blanks _ ih =>
    have word : '\ufeff' ∉ f.name.toList := by cases f <;> decide
    simp [word, gap_mark blanks, ih]
  | apart before _ behind ih => simp [gap_mark before, gap_mark behind, ih]

theorem ofText?_spelled (spelled : Spells t source.toList) : ∃ tokens, Lexed t tokens ∧ Token.ofText? source = some tokens := by
  have ended : Stops [] := nofun
  obtain ⟨tokens, lexed, scans⟩ := scans_spelled spelled ended
  have empty : Token.scan? [] = some [] := by rw [Token.scan?]; rfl
  have scanned : Token.scan? source.toList = some tokens := by simpa [Scans, empty] using scans
  have balanced : Token.balanced [] tokens = true := by simpa [Token.balanced] using balanced_lexed lexed [] []
  have start : source.toList.head? ≠ some '\ufeff' := fun first => spells_mark spelled (List.mem_of_head? first)
  refine ⟨tokens, lexed, ?_⟩
  simp [Token.ofText?, start, scanned, balanced]

/-- The text of a type is read as the path that it is. -/
theorem ofSource?_spelled (spelled : Spells t source.toList) :
    WrittenType.ofSource? source = some (single (segmentOf t)).written := by
  obtain ⟨tokens, lexed, taken⟩ := ofText?_spelled spelled
  have read := reads_writtenType (g := .ofDepth (tokens.length + 1)) (reads_lexed lexed (Nat.le_refl _) .nil)
  rw [List.append_nil] at read
  have whole : Grammar.writtenType (.ofDepth (tokens.length + 1)) tokens = some ⟨_, _, []⟩ := read
  unfold WrittenType.ofSource? Reader.ofSource?
  rw [taken]
  change ((Grammar.writtenType (.ofDepth (tokens.length + 1)) tokens).filter _).bind _ = _
  rw [whole]
  rfl

private theorem filter_gap {gap : List Char} (blanks : Gap gap) : gap.filter (!isGap ·) = [] :=
  List.filter_eq_nil_iff.mpr fun c member => by simp [blanks c member]

theorem source_appliedTo (argument : Segment) (name : String) :
    (single (appliedTo argument name)).path.source = name ++ ("<" ++ ((single argument).path.source ++ ">")) := by
  simp [single, appliedTo, ReadPath.add, ReadPath.start]

/-- The source of a type is its text without gaps. -/
theorem source_segmentOf {cs : List Char} (spelled : Spells t cs) :
    (single (segmentOf t)).path.source.toList = cs.filter (!isGap ·) := by
  have less : isGap '<' = false := by decide
  have greater : isGap '>' = false := by decide
  induction spelled with
  | scalar s => cases s <;> decide
  | wrapped f blanks _ ih =>
    have word : f.name.toList.filter (!isGap ·) = f.name.toList := by cases f <;> decide
    simp only [segmentOf_wrapped, source_appliedTo, String.toList_append, List.filter_append, filter_gap blanks, ih, word]
    simp [less, greater]
  | apart before _ behind ih =>
    rw [List.filter_append, List.filter_append, filter_gap before, filter_gap behind, ih, List.append_nil, List.nil_append]

end Sources

/-- The kind of column that data of a type are kept in, if there is one. -/
def columnKind : Scalar → Option FieldType
  | .bool => none
  | .int32 => some .int32
  | .int64 => some .int64
  | .float32 => some .float32
  | .float64 => some .float64
  | .text => some .text
  | .date => some .date
  | .timestamp => some .timestamp
  | .uuid => none

/-- Whether absence is a value of a type. -/
def takesNull : Target → Bool
  | .scalar _ => false
  | .optional _ => true
  | .boxed t => takesNull t

theorem column?_segmentOf (t : Target) : (single (segmentOf t)).written.column? = (columnKind t.innermost, takesNull t) := by
  induction t with
  | scalar s => cases s <;> rfl
  | optional t ih =>
    have step : (single (segmentOf (.optional t))).written.column? = ((single (segmentOf t)).written.column?.1, true) := rfl
    rw [step, ih]
    rfl
  | boxed t ih =>
    have step : (single (segmentOf (.boxed t))).written.column? = (single (segmentOf t)).written.column? := rfl
    rw [step, ih]
    rfl

theorem convert_null {s : Scalar} {v : Value} (null : v.isNull) : s.convert v = .error (.missing s) := by
  unfold Scalar.convert
  split
  case h_21 => exact if_pos null
  all_goals cases null

/-- Nulls are taken by the types that absence is a value of. -/
theorem converts_null_iff (t : Target) {v : Value} (null : v.isNull) : (∃ x, t.convert v = .ok x) ↔ takesNull t = true := by
  induction t with
  | scalar s => simp [Target.convert, convert_null null, takesNull]
  | optional t => simp [Target.convert, null, takesNull]
  | boxed t ih => exact ih

theorem null_columnKind {s : Scalar} {kind : FieldType} (kept : columnKind s = some kind) : s.null = kind.null := by
  cases s <;> cases kept <;> rfl

/-- What is made of the text of a type agrees with the conversion to the type. The kind of column is that of what the type
holds at last, or else the type is unsupported as a whole. The column may be null just when the null without a kind is converted
to the type, or any other null. The null of the column is that of the type. -/
theorem inspected_as_converted {t : Target} {source : String} (spelled : Spells t source.toList) :
    ∃ w, WrittenType.ofSource? source = some w ∧
      w.inspect.type = (columnKind t.innermost).getD (.unsupported (withoutGaps source)) ∧
      (w.inspect.nullable = true ↔ ∃ x, t.convert .null = .ok x) ∧
      (∀ v : Value, v.isNull → (w.inspect.nullable = true ↔ ∃ x, t.convert v = .ok x)) ∧
      ((columnKind t.innermost).isSome → t.null = w.inspect.type.null) := by
  have column := column?_segmentOf t
  have own : (single (segmentOf t)).written.source = withoutGaps source := by
    rw [withoutGaps, ← source_segmentOf spelled, String.ofList_toList]
    exact source_single _
  have nullable : (single (segmentOf t)).written.inspect.nullable = takesNull t := by rw [WrittenType.inspect, column]
  have type : (single (segmentOf t)).written.inspect.type =
      (columnKind t.innermost).getD (.unsupported (withoutGaps source)) := by
    rw [WrittenType.inspect, column, own]
  refine ⟨_, ofSource?_spelled spelled, type, ?_, ?_, ?_⟩
  · rw [nullable]
    exact (converts_null_iff t rfl).symm
  · intro v null
    rw [nullable]
    exact (converts_null_iff t null).symm
  · intro supported
    obtain ⟨kind, kept⟩ := Option.isSome_iff_exists.mp supported
    rw [type, kept]
    exact null_columnKind kept

theorem inspected_as_converted_spaced :
    Spells (.optional (.boxed (.scalar .bool))) "Option <Box<  bool > >".toList ∧
      ∃ w, WrittenType.ofSource? "Option <Box<  bool > >" = some w ∧ w.inspect.type = .unsupported "Option<Box<bool>>" ∧
        w.inspect.nullable = true := by
  have blank : Gap [' '] := List.forall_mem_singleton.mpr rfl
  have blanks : Gap [' ', ' '] := List.forall_mem_cons.mpr ⟨rfl, blank⟩
  have boxed := Spells.wrapped .box gap_nil (.apart blanks (.scalar .bool) blank)
  have spelled : Spells (.optional (.boxed (.scalar .bool))) "Option <Box<  bool > >".toList :=
    .wrapped .option blank (.apart gap_nil boxed blank)
  obtain ⟨w, read, type, nullable, -, -⟩ := inspected_as_converted spelled
  exact ⟨spelled, w, read, type, nullable.mpr ⟨_, rfl⟩⟩

end EntityMapping.Proofs.WrittenTargets
