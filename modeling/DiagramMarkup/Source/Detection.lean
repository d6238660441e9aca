import DiagramMarkup.Diagram.Entities
import DiagramMarkup.Diagram.Basic
import DiagramMarkup.Phrase.Arrow
import DiagramMarkup.Source.Reading

/-! # Telling the kind of a diagram

Rules look at the lines of a source one after the other, and the first that holds gives the kind. The
rule for messages comes before the one for actors, so that a conversation of actors is a sequence
diagram and not a use case diagram.
-/

namespace DiagramMarkup

/-- A rule: the kind of every source for which it holds. -/
structure Rule where
  kind : Kind
  holds : Source → Bool

/-- Rules in the order in which they are tried, and the kind of a source for which none holds. -/
structure Detection where
  rules : List Rule := []
  fallback : Kind

namespace Detection

/-- The kind that the first rule that holds gives to a source. -/
def detect (detection : Detection) (source : Source) : Kind :=
  ((detection.rules.find? fun rule => rule.holds source).map Rule.kind).getD detection.fallback

def add (detection : Detection) (rule : Rule) : Detection :=
  { detection with rules := detection.rules ++ [rule] }

open Text Pattern Phrase

/-- Whether a line starts with a word that is followed by a blank or nothing. -/
def startsWith (word : String) (s : List Char) : Bool :=
  match after? word.toList s with
  | some rest => rest.isEmpty || startsBlank rest
  | none => false

def someLine (test : List Char → Bool) (source : Source) : Bool :=
  source.lines.any fun line => test line.chars

def someWord (words : List String) (source : Source) : Bool :=
  someLine (fun s => words.any fun word => startsWith word s) source

/-- The start of a message with a label: two names, an arrow between them, and a colon. -/
def messagePattern : Pattern Unit := do
  let _ ← run1 isPathChar
  blanks
  let _ ← anyOf ["->>", "->", "-->>", "-->", "<-", "<--"]
  blanks
  let _ ← run1 isPathChar
  blanks
  char ':'

def isMessage (s : List Char) : Bool :=
  messagePattern.reads s

/-- The head of an arrow and the stroke beside it. -/
def arrowPattern : Pattern Unit :=
  (do
    let _ ← one isStroke
    char '>') <|>
  (do
    char '<'
    let _ ← one isStroke)

def hasArrow (s : List Char) : Bool :=
  arrowPattern.occurs s

/-- The opening of an entity with its columns. -/
def entityBlockPattern : Pattern Unit := do
  let _ ← text "entity"
  blanks1
  let _ ← run (· ≠ '{')
  char '{'

/-- A cardinality beside a line, at either end. -/
def crowsFootPattern : Pattern Unit :=
  (do
    let _ ← anyOf (Cardinality.all.map Cardinality.leftMark)
    let _ ← anyOf ["--", ".."]) <|>
  (do
    let _ ← anyOf ["--", ".."]
    let _ ← anyOf (Cardinality.all.map Cardinality.rightMark))

def hasCrowsFoot (s : List Char) : Bool :=
  crowsFootPattern.occurs s

/-- A name in parentheses that the end, a blank or an arrow follows. -/
def useCasePattern : Pattern Unit := do
  char '('
  let _ ← run1 fun c => c ≠ '(' && c ≠ ')'
  char ')'
  ended <|> discard (one fun c => isBlank c || c = '-' || c = '.' || c = '<')

/-- A declared use case, or a name in parentheses at the start of a line or behind an arrow or a
blank. -/
def hasUseCase (s : List Char) : Bool :=
  startsWith "usecase" s || useCasePattern.reads s ||
    Pattern.occurs
      (do
        let _ ← one fun c => isBlank c || c = '>' || c = '-'
        useCasePattern)
      s

/-- Words that declare no participant of a conversation. -/
def structuralWords : List String :=
  ["class", "interface", "abstract", "enum", "state", "usecase", "node", "cloud", "artifact",
    "component", "storage", "folder", "frame", "file", "rectangle", "package"]

/-- Whether the source declares something that is no part of a conversation. -/
def hasStructure (source : Source) : Bool :=
  someWord structuralWords source ||
    someLine
      (fun s =>
        contains "[*]".toList s || hasStart ['['] s || entityBlockPattern.reads s ||
          hasCrowsFoot s || hasUseCase s)
      source

/-- Messages, and nothing that is no part of a conversation. -/
def hasMessages (source : Source) : Bool :=
  someLine isMessage source && !hasStructure source

/-- Arrows between declared participants, or between actors where nothing speaks for use cases. -/
def hasParticipants (source : Source) : Bool :=
  someLine hasArrow source &&
    (someWord ["participant", "boundary", "control", "collections"] source ||
      (someWord ["actor"] source && !someLine hasUseCase source &&
        !someLine (fun s => (enclosed ':' ':').occurs s && !isMessage s) source))

/-- A start or an end, and an action or a condition. -/
def hasFlow (source : Source) : Bool :=
  (source.lines.any fun line => line.text ∈ ["start", "stop", "end"]) &&
    someLine
      (fun s =>
        (hasStart [':'] s && !hasEnd [':'] s) ||
          ["if (", "if(", "while (", "while("].any fun start => hasStart start.toList s)
      source

/-- A solid arrow to the right, perhaps with a direction. -/
def transitionPattern : Pattern Unit := do
  let _ ← run1 (· = '-')
  let _ ← optional do
    let _ ← run1 isWord
    run1 (· = '-')
  char '>'

/-- States and, unless one is declared, an arrow. -/
def hasStates (source : Source) : Bool :=
  let declared := someWord ["state"] source
  (declared || someLine (contains "[*]".toList) source) &&
    (someLine transitionPattern.occurs source || declared)

/-- The marks of a topic, with what may follow them, before its text. -/
def topicPattern : Pattern Unit := do
  let _ ← run1 fun c => c = '*' || c = '+' || c = '-'
  let _ ← optional (char '_')
  let _ ← optional do
    char '['
    let _ ← optional (char '#')
    let _ ← run1 isWord
    char ']'
  let _ ← one fun c => isBlank c || c = ':'

/-- The marker of a mind map, or nothing but topics. -/
def hasTopics (source : Source) : Bool :=
  source.mindMapMarker ||
    (!source.isEmpty && source.lines.all fun line => topicPattern.reads line.chars)

def hasEntities (source : Source) : Bool :=
  someWord ["entity"] source || someLine hasCrowsFoot source

def hasUseCases (source : Source) : Bool :=
  someWord ["actor", "usecase"] source || someLine hasUseCase source ||
    someLine (enclosed ':' ':').reads source

/-- Words that declare deployed things and nothing else. -/
def deploymentWords : List String :=
  ["node", "database", "cloud", "artifact", "component", "storage", "folder", "frame", "file",
    "queue"]

def hasDevices (source : Source) : Bool :=
  someWord deploymentWords source || someLine (enclosed '[' ']').reads source

/-- The rules for all kinds; a source without any sign is a class diagram. -/
def standard : Detection where
  rules := [
    ⟨.sequence, hasMessages⟩, ⟨.sequence, hasParticipants⟩, ⟨.activity, hasFlow⟩,
    ⟨.states, hasStates⟩, ⟨.mindMap, hasTopics⟩, ⟨.entities, hasEntities⟩,
    ⟨.useCases, hasUseCases⟩, ⟨.deployment, hasDevices⟩]
  fallback := .classes

end Detection

end DiagramMarkup
