import TokenTables.Diagnostic.Basic
import TokenTables.Token.Vocabulary
import TokenTables.Trie.Fold

/-!
The trie of a vocabulary. Spellings are inserted in the order of their declarations. A spelling
that is not ASCII or that an earlier token holds is reported and left out. When a new spelling
and one already bound are such that one starts with the other, both are kept, and the overlap is
reported as the policy says, at the line of the later one.
-/

namespace TokenTables

inductive OverlapPolicy
  | allow
  | warn
  | deny
  deriving DecidableEq, Repr

namespace OverlapPolicy

def message? : OverlapPolicy → Option Message
  | allow => none
  | warn => some .overlapWarning
  | deny => some .overlapDenied

end OverlapPolicy

namespace Trie

/-- The tokens that the proper beginnings of a spelling complete below a node, shortest first. -/
def completedFrom (trie : Trie) (start : Nat) : List UInt8 → List TokenId
  | code :: next :: rest =>
    (trie.token? start code).toList ++
      match trie.child? start code with
      | some child => trie.completedFrom child (next :: rest)
      | none => []
  | _ => []

/-- Pairs of a shorter and a longer spelling's tokens that overlap once `spelling` is bound to
`id`: every bound spelling that it continues, and the first one that continues it. -/
def overlaps (trie : Trie) (id : TokenId) (spelling : List UInt8) : List (TokenId × TokenId) :=
  (trie.completedFrom root spelling).map (·, id) ++
    (((trie.walk spelling).bind trie.firstUnder).map (id, ·)).toList

end Trie

structure TrieBuild where
  trie : Trie := .empty
  report : List Diagnostic := []
  boundCount : Nat := 0

namespace TrieBuild

structure Context where
  vocabulary : Vocabulary
  policy : OverlapPolicy
  file : Option String

namespace Context

def nameOf (context : Context) (id : TokenId) : String :=
  ((context.vocabulary.get? id).map Declaration.name).getD "?"

def spellingOf (context : Context) (id : TokenId) : String :=
  ((context.vocabulary.get? id).bind Declaration.spelling).getD ""

def lineOf (context : Context) (id : TokenId) : Nat :=
  ((context.vocabulary.get? id).map Declaration.line).getD 0

def diagnostic (context : Context) (id : TokenId) (message : Message) (arguments : List String) :
    Diagnostic :=
  Diagnostic.onLine context.file (context.lineOf id) message arguments

def nonAscii (context : Context) (id : TokenId) (character : Char) : Diagnostic :=
  context.diagnostic id .nonAsciiSpelling [context.nameOf id, String.singleton character]

def taken (context : Context) (id holder : TokenId) (spelling : String) : Diagnostic :=
  (context.diagnostic id .spellingTaken
      [Literal.string spelling, context.nameOf id, context.nameOf holder]).withRelated
    (context.diagnostic holder .firstDefinition [context.nameOf holder])

def overlap (context : Context) (id : TokenId) (message : Message) (pair : TokenId × TokenId) :
    Diagnostic :=
  context.diagnostic id message
    [Literal.string (context.spellingOf pair.1), context.nameOf pair.1,
      Literal.string (context.spellingOf pair.2), context.nameOf pair.2]

def overlapReport (context : Context) (id : TokenId) (pairs : List (TokenId × TokenId)) :
    List Diagnostic :=
  match context.policy.message? with
  | some message => pairs.map (context.overlap id message)
  | none => []

end Context

def addDiagnostic (build : TrieBuild) (diagnostic : Diagnostic) : TrieBuild :=
  { build with report := build.report ++ [diagnostic] }

def bind (context : Context) (build : TrieBuild) (id : TokenId) (spelling : String) : TrieBuild :=
  match firstNonAscii spelling with
  | some character => build.addDiagnostic (context.nonAscii id character)
  | none =>
    let codes := utf8Bytes spelling
    let insertion := build.trie.insert codes id
    match insertion.refusal with
    | none => {
        trie := insertion.trie
        report := build.report ++ context.overlapReport id (build.trie.overlaps id codes)
        boundCount := build.boundCount + 1 }
    | some (.occupied holder) =>
      { build with trie := insertion.trie }.addDiagnostic (context.taken id holder spelling)
    | some _ => { build with trie := insertion.trie }

end TrieBuild

def buildTrie (vocabulary : Vocabulary) (policy : OverlapPolicy) (file : Option String) :
    TrieBuild :=
  vocabulary.spelled.foldl
    (fun build (id, _, spelling) => build.bind ⟨vocabulary, policy, file⟩ id spelling) {}

end TokenTables
