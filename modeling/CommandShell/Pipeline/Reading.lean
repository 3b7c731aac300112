import CommandShell.Pipeline
import CommandShell.Token

/-!
# Reading a pipeline from tokens

The tokens of a line are cut at every `|`. Each part is a sequence of items, an item being a word
or a redirection operator followed by a word. The words are the arguments of the stage; of several
redirections in one direction the last one counts. Nothing is opened here.
-/

namespace CommandShell

/-- What is wrong with a sequence of tokens. -/
inductive SyntaxFault where
  /-- A part between pipes has no word that could name a program. -/
  | emptyStage
  /-- A redirection operator is not followed by a word. -/
  | missingTarget
  /-- A pipe stands where the items of one stage were expected. -/
  | strayPipe
  /-- A fault described by a text of its own. -/
  | described (text : String)
  deriving DecidableEq, Repr

/-- The wording of a fault. -/
def SyntaxFault.message : SyntaxFault → String
  | emptyStage => "empty pipeline stage"
  | missingTarget => "redirect missing target"
  | strayPipe => "unexpected `|` inside a stage"
  | described text => text

/-- The items of one stage, sorted: the words in order, and the redirection of each direction that
counts. -/
structure StageItems where
  /-- The words that are not targets of a redirection. -/
  words : List String
  /-- The file to read from. -/
  input : Option String
  /-- The file to write to. -/
  output : Option String
  deriving DecidableEq, Repr

namespace StageItems

/-- No item at all. -/
def empty : StageItems := ⟨[], none, none⟩

/-- Sorts the items of a stage after those in `seen`. A later redirection replaces an earlier one
of the same direction. -/
def gather (seen : StageItems) : List Token → Except SyntaxFault StageItems
  | [] => .ok seen
  | .word w :: rest => gather { seen with words := seen.words ++ [w] } rest
  | .input :: .word target :: rest => gather { seen with input := some target } rest
  | .output :: .word target :: rest => gather { seen with output := some target } rest
  | .pipe :: _ => .error .strayPipe
  | .input :: _ => .error .missingTarget
  | .output :: _ => .error .missingTarget

/-- Sorts the items of a stage. -/
def ofTokens (tokens : List Token) : Except SyntaxFault StageItems := gather empty tokens

end StageItems

/-- The stage that a part of a line between two pipes describes. -/
def Stage.ofTokens (part : List Token) : Except SyntaxFault Stage :=
  match StageItems.ofTokens part with
  | .error fault => .error fault
  | .ok ⟨[], _, _⟩ => .error .emptyStage
  | .ok ⟨program :: arguments, input, output⟩ => .ok ⟨program, arguments, input, output⟩

/-- The stages that the parts of a line describe. The leftmost fault is the one reported. -/
def Stage.allOfParts : List (List Token) → Except SyntaxFault (List Stage)
  | [] => .ok []
  | part :: parts =>
    match Stage.ofTokens part with
    | .error fault => .error fault
    | .ok stage =>
      match Stage.allOfParts parts with
      | .error fault => .error fault
      | .ok stages => .ok (stage :: stages)

/-- Cuts a sequence of tokens at every pipe: the part before the first one, and those after it. -/
def Token.cutAtPipes : List Token → List Token × List (List Token)
  | [] => ([], [])
  | .pipe :: rest => let (part, parts) := cutAtPipes rest; ([], part :: parts)
  | token :: rest => let (part, parts) := cutAtPipes rest; (token :: part, parts)

/-- The pipeline that a sequence of tokens describes. -/
def Pipeline.ofTokens (tokens : List Token) : Except SyntaxFault Pipeline :=
  let (part, parts) := Token.cutAtPipes tokens
  match Stage.ofTokens part with
  | .error fault => .error fault
  | .ok first =>
    match Stage.allOfParts parts with
    | .error fault => .error fault
    | .ok rest => .ok ⟨first, rest⟩

namespace Token

/-- There is one part more than there are pipes. -/
theorem length_cutAtPipes (tokens : List Token) :
    (cutAtPipes tokens).2.length = tokens.count .pipe := by
  fun_induction cutAtPipes tokens <;> simp_all

/-- No part holds a pipe. -/
theorem pipe_notMem_cutAtPipes (tokens : List Token) :
    .pipe ∉ (cutAtPipes tokens).1 ∧ ∀ part ∈ (cutAtPipes tokens).2, .pipe ∉ part := by
  fun_induction cutAtPipes tokens with
  | case1 => simp
  | case2 rest part parts h ih => simp_all
  | case3 token rest hne part parts h ih =>
    rw [h] at ih
    refine ⟨?_, ih.2⟩
    rw [List.mem_cons, not_or]
    exact ⟨fun e => hne e.symm, ih.1⟩

end Token

end CommandShell
