import Fcmr.Library.Regexes
import Fcmr.Research.Retrieval

/-! The patterns of the detector and its scan of one chunk. Matching ignores case, for ASCII
letters and for the Kelvin sign, which is a k. What Unicode counts among the characters of a word
belongs to the runtime, and so does the order of detections at one offset. -/
namespace Fcmr.Research

open DotNet Regexes

def isAsciiWord (c : CodeUnit) : Bool :=
  (0x30 ≤ c && c ≤ 0x39) || (0x41 ≤ c && c ≤ 0x5A) || (0x61 ≤ c && c ≤ 0x7A) || c == 0x5F

/-- `\w`. Only its ASCII part is fixed. -/
structure WordCharacters where
  isWord : CodeUnit → Bool
  ascii : ∀ c : CodeUnit, c < 0x80 → isWord c = isAsciiWord c

/-- `List.Sort` by offset, which is not stable. -/
structure OffsetSort where
  sort : List InjectionDetection → List InjectionDetection
  perm : ∀ detections, (sort detections).Perm detections
  ordered : ∀ detections, (sort detections).Pairwise fun a b => a.offset ≤ b.offset

namespace InjectionDetector

def maxMatchLength : Nat := 120

def lowerAscii (c : CodeUnit) : CodeUnit := if 0x41 ≤ c && c ≤ 0x5A then c + 0x20 else c

def ignoreCase (c x : CodeUnit) : Bool :=
  lowerAscii x == lowerAscii c || (lowerAscii c == digit 'k' && x == 0x212A)

def literal (value : Text) : Regex CodeUnit := .chain (value.map fun c => .one (ignoreCase c))

def words (alternatives : List Text) : Regex CodeUnit := .anyOf (alternatives.map literal)

def spaces (least : Nat) : Regex CodeUnit := .rep false least none isWhiteSpace

def gap (reluctant : Bool) (most : Nat) : Regex CodeUnit :=
  .rep reluctant 0 (some most) fun c => c != digit '.' && c != 0x0A

def phrase (texts : List Text) : Regex CodeUnit :=
  .chain ((texts.map literal).intersperse (spaces 1))

def nonBlanks : Regex CodeUnit := .rep false 1 none fun c => !isWhiteSpace c

def lineStart : Regex CodeUnit := .look fun before _ => before.all (· == 0x0A)

section

variable (characters : WordCharacters)

/-- For `\b`, the zero-width joiners belong to words too. -/
def inWord (c : CodeUnit) : Bool := characters.isWord c || c == 0x200C || c == 0x200D

def boundary : Regex CodeUnit :=
  .look fun before after => before.any (inWord characters) != after.any (inWord characters)

def instructionOverride : Regex CodeUnit := .chain [
  boundary characters,
  words [lit "ignore", lit "disregard", lit "forget", lit "override"],
  boundary characters, gap false 40, boundary characters,
  words [lit "previous", lit "prior", lit "earlier", lit "above", lit "all"],
  boundary characters, gap false 20, boundary characters,
  words [lit "instruction", lit "prompt", lit "rule", lit "direction"],
  .opt (literal (lit "s")), boundary characters]

def roleReassignment : Regex CodeUnit := .chain [
  boundary characters,
  .anyOf [
    phrase [lit "you", lit "are", lit "now"],
    .chain [phrase [lit "from", lit "now", lit "on"], .opt (literal (lit ",")), spaces 1,
      literal (lit "you")],
    .chain [phrase [lit "act", lit "as"],
      .opt (.chain [spaces 1, literal (lit "a"), .opt (literal (lit "n"))])],
    phrase [lit "pretend", lit "to", lit "be"],
    .chain [phrase [lit "your", lit "new"], spaces 1, words [lit "role", lit "instruction"],
      .opt (literal (lit "s"))]],
  boundary characters]

def systemPromptSpoof : Regex CodeUnit := .anyOf [
  .chain [literal (lit "<|im_"), words [lit "start", lit "end"], literal (lit "|>")],
  .chain [literal (lit "["), .opt (literal (lit "/")), literal (lit "INST]")],
  literal (lit "<<SYS>>"),
  .chain [lineStart, spaces 0, literal (lit "###"), spaces 0, literal (lit "system"),
    boundary characters],
  .chain [lineStart, spaces 0, words [lit "system", lit "assistant"], spaces 0,
    literal (lit ":")]]

def toolInvocation : Regex CodeUnit := .anyOf [
  .chain [boundary characters, words [lit "call", lit "invoke", lit "execute", lit "run"], spaces 1,
    literal (lit "the"), spaces 1, .rep false 1 none characters.isWord, spaces 1,
    words [lit "tool", lit "function"], boundary characters],
  .chain [literal (lit "\""), words [lit "function_call", lit "tool_call", lit "tool_calls"],
    literal (lit "\""), spaces 0, literal (lit ":")]]

def approvalBypass : Regex CodeUnit := .chain [
  boundary characters,
  .anyOf [
    .chain [literal (lit "auto"), .rep false 0 (some 1) fun c => c == digit '-' || isWhiteSpace c,
      literal (lit "approve")],
    .chain [literal (lit "approve"), spaces 1, words [lit "this", lit "the", lit "all"],
      boundary characters],
    .chain [phrase [lit "no", lit "approval"], spaces 1,
      .opt (.chain [literal (lit "is"), spaces 1]), words [lit "needed", lit "required"]],
    .chain [literal (lit "skip"), spaces 1, .opt (.chain [literal (lit "the"), spaces 1]),
      literal (lit "approval")],
    .chain [literal (lit "without"), spaces 1, .opt (.chain [literal (lit "human"), spaces 1]),
      words [lit "approval", lit "review"]]]]

def exfiltration : Regex CodeUnit := .chain [
  boundary characters,
  words [lit "send", lit "post", lit "upload", lit "exfiltrate", lit "forward", lit "transmit"],
  boundary characters, gap true 60,
  .anyOf [
    .chain [literal (lit "http"), .opt (literal (lit "s")), literal (lit "://")],
    .chain [boundary characters, words [lit "to", lit "at"], spaces 1, nonBlanks, literal (lit "@"),
      nonBlanks, literal (lit "."), .rep false 1 none characters.isWord]]]

def patterns : List (InjectionCategory × Regex CodeUnit) :=
  [(.instructionOverride, instructionOverride characters),
    (.roleReassignment, roleReassignment characters),
    (.systemPromptSpoof, systemPromptSpoof characters),
    (.toolInvocation, toolInvocation characters),
    (.approvalBypass, approvalBypass characters),
    (.exfiltration, exfiltration characters)]

def truncate (value : Text) : Text :=
  let collapsed := trim (replace (spaces 1) [0x20] value)
  if collapsed.length ≤ maxMatchLength then collapsed
  else collapsed.take maxMatchLength ++ lit "…"

def detection (chunk : RetrievedChunk) (category : InjectionCategory) (span : Nat × Nat) :
    InjectionDetection where
  chunkId := chunk.chunkId
  sourceId := chunk.sourceId
  category
  matched := truncate ((chunk.text.drop span.1).take (span.2 - span.1))
  offset := span.1

/-- `Scan`, with the patterns that the source has. -/
def detect (offsets : OffsetSort) (chunk : RetrievedChunk) : List InjectionDetection :=
  offsets.sort <| (patterns characters).flatMap fun pattern =>
    (spans pattern.2 chunk.text).map (detection chunk pattern.1)

end

end InjectionDetector

end Fcmr.Research
