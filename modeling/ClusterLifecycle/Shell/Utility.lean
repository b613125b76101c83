import ClusterLifecycle.SystemError
import ClusterLifecycle.Text.Digits
import ClusterLifecycle.Text.Bytes

/-!
The everyday programs that scripts call. Each is a function of its arguments, its input and the
files it can read.
-/

namespace ClusterLifecycle.Shell

open Text.Utf8

/-- What a program does: its output, its exit code and how long it sleeps, in nanoseconds. Input
that is left is there for the next program. -/
structure Effect where
  out : Bytes
  err : Bytes
  status : Nat
  left : Bytes
  time : Nat
  deriving DecidableEq, Repr

namespace Effect

def ofOutput (out left : Bytes) : Effect := ⟨out, [], 0, left, 0⟩

def ofStatus (status : Nat) (left : Bytes) : Effect := ⟨[], [], status, left, 0⟩

def failure (status : Nat) (message : String) (left : Bytes) : Effect :=
  ⟨[], encode (message ++ "\n").toList, status, left, 0⟩

end Effect

def newline : UInt8 := 10

def bytes (text : String) : Bytes :=
  encode text.toList

def octal (room : Nat) (text : List Char) : Nat × List Char :=
  let digits := (text.take room).takeWhile fun c => '0' ≤ c ∧ c ≤ '7'
  ((Text.natural? 8 digits).getD 0, text.drop digits.length)

def controls : List (Char × UInt8) :=
  [('a', 7), ('b', 8), ('f', 12), ('n', 10), ('r', 13), ('t', 9), ('v', 11), ('\\', 92)]

/-- Text with its escapes replaced, up to one that ends it. A byte in octal digits starts with a
zero of its own. -/
def unescaped : Nat → List Char → Bytes × Bool
  | 0, _ | _, [] => ([], false)
  | _, '\\' :: 'c' :: _ => ([], true)
  | fuel + 1, '\\' :: '0' :: rest =>
    let (n, rest) := octal 3 rest
    let (more, ended) := unescaped fuel rest
    (UInt8.ofNat n :: more, ended)
  | fuel + 1, '\\' :: c :: rest =>
    let (more, ended) := unescaped fuel rest
    match controls.lookup c with
    | some b => (b :: more, ended)
    | none => (encode ['\\', c] ++ more, ended)
  | fuel + 1, c :: rest =>
    let (more, ended) := unescaped fuel rest
    (encode [c] ++ more, ended)

/-- Its arguments on a line, with their escapes replaced or left as they are. -/
def echo (escapes : Bool) (arguments : List String) (input : Bytes) : Effect :=
  let (arguments, end_) := match arguments with
    | "-n" :: rest => (rest, [])
    | all => (all, [newline])
  let text := (String.intercalate " " arguments).toList
  let (out, ended) := if escapes then unescaped (text.length + 1) text else (encode text, false)
  .ofOutput (out ++ if ended then [] else end_) input

/-- One pass over a format: what it prints, and the arguments that it leaves. -/
def formatted : Nat → List Char → List String → Bytes × List String
  | 0, _, arguments | _, [], arguments => ([], arguments)
  | fuel + 1, '%' :: '%' :: rest, arguments =>
    let (more, arguments) := formatted fuel rest arguments
    (encode ['%'] ++ more, arguments)
  | fuel + 1, '%' :: 's' :: rest, arguments =>
    let (more, left) := formatted fuel rest arguments.tail
    (bytes (arguments.head?.getD "") ++ more, left)
  | fuel + 1, '%' :: 'd' :: rest, arguments =>
    let (more, left) := formatted fuel rest arguments.tail
    (encode (Text.decimal ((Text.natural? 10 (arguments.head?.getD "").toList).getD 0)) ++ more, left)
  | fuel + 1, '\\' :: c :: rest, arguments =>
    let (piece, rest) :=
      if '0' ≤ c ∧ c ≤ '7' then
        let (n, rest) := octal 3 (c :: rest)
        ([UInt8.ofNat n], rest)
      else
        ((controls.lookup c).map (fun b => [b]) |>.getD
          (encode (if c = '"' ∨ c = '\'' then [c] else ['\\', c])), rest)
    let (more, left) := formatted fuel rest arguments
    (piece ++ more, left)
  | fuel + 1, c :: rest, arguments =>
    let (more, left) := formatted fuel rest arguments
    (encode [c] ++ more, left)

/-- A format is used again as long as it takes arguments and there are some. -/
def repeated (format : List Char) : Nat → List String → Bytes
  | 0, _ => []
  | fuel + 1, arguments =>
    let (out, left) := formatted (format.length + 1) format arguments
    if left.isEmpty || left.length == arguments.length then out else out ++ repeated format fuel left

def printf (arguments : List String) (input : Bytes) : Effect :=
  match arguments with
  | [] => .failure 2 "printf: usage: printf format [arg ...]" input
  | format :: rest => .ofOutput (repeated format.toList (rest.length + 1) rest) input

def reason : SystemError → String
  | .notFound => "No such file or directory"
  | .permissionDenied => "Permission denied"
  | .alreadyExists => "File exists"
  | .notADirectory => "Not a directory"
  | .isADirectory => "Is a directory"
  | .nameTooLong => "File name too long"
  | other => other.message

abbrev Reading := String → Except SystemError String

def cat (read : Reading) (arguments : List String) (input : Bytes) : Effect :=
  (if arguments.isEmpty then ["-"] else arguments).foldl (fun done name =>
    if name = "-" then { done with out := done.out ++ done.left, left := [] }
    else match read name with
      | .ok text => { done with out := done.out ++ bytes text }
      | .error cause =>
        { done with err := done.err ++ bytes s!"cat: {name}: {reason cause}\n", status := 1 })
    (.ofStatus 0 input)

def firstLines : Nat → Bytes → Bytes
  | 0, _ => []
  | n + 1, input =>
    let line := input.takeWhile (· ≠ newline)
    let rest := input.drop line.length
    line ++ rest.take 1 ++ if rest.isEmpty then [] else firstLines n rest.tail

def head (arguments : List String) (input : Bytes) : Effect :=
  let count := fun (text : String) => Text.natural? 10 text.toList
  match arguments with
  | [] => .ofOutput (firstLines 10 input) []
  | ["-c", n] => match count n with
    | some n => .ofOutput (input.take n) (input.drop n)
    | none => .failure 1 s!"head: invalid number of bytes: '{n}'" input
  | ["-n", n] => match count n with
    | some n => .ofOutput (firstLines n input) []
    | none => .failure 1 s!"head: invalid number of lines: '{n}'" input
  | _ => .failure 1 "head: unsupported arguments" input

def wordCount (input : Bytes) : Nat :=
  (input.foldl (fun (inside, total) b =>
    if b = 32 ∨ (9 ≤ b ∧ b ≤ 13) then (false, total)
    else (true, if inside then total else total + 1)) (false, 0)).2

def padded (width n : Nat) : List Char :=
  let digits := Text.decimal n
  List.replicate (width - digits.length) ' ' ++ digits

/-- The counts of lines, words and bytes, of which the options choose; more than one are set in
columns. -/
def wc (arguments : List String) (input : Bytes) : Effect :=
  let chosen := if arguments.isEmpty then ["-l", "-w", "-c"] else arguments
  let counts := [("-l", input.count newline), ("-w", wordCount input), ("-c", input.length)]
  if chosen.any fun name => (counts.lookup name).isNone then
    .failure 1 "wc: unsupported arguments" input
  else
    let shown := (counts.filter fun count => chosen.contains count.1).map Prod.snd
    let width := if shown.length = 1 then 1 else 7
    .ofOutput (encode ((List.intercalate [' '] (shown.map (padded width))) ++ ['\n'])) []

def ranges : Bytes → Bytes
  | low :: 45 :: high :: rest =>
    (List.range (high.toNat + 1 - low.toNat)).map (fun n => UInt8.ofNat (low.toNat + n)) ++ ranges rest
  | b :: rest => b :: ranges rest
  | [] => []

def byteSet (text : String) : Bytes :=
  ranges (formatted (text.length + 1) text.toList []).1

/-- A byte replaced by its counterpart in a second set, whose last byte stands for all that are
missing. -/
def exchanged (source target : Bytes) (b : UInt8) : UInt8 :=
  match source.idxOf? b, target.getLast? with
  | some place, some last => target.getD place last
  | _, _ => b

def tr (arguments : List String) (input : Bytes) : Effect :=
  match arguments with
  | ["-d", set] => .ofOutput (input.filter fun b => !(byteSet set).contains b) []
  | [source, target] => .ofOutput (input.map (exchanged (byteSet source) (byteSet target))) []
  | _ => .failure 1 "tr: unsupported arguments" input

def nanoseconds? (text : String) : Option Nat :=
  let whole := text.toList.takeWhile (· ≠ '.')
  let fraction := (text.toList.drop whole.length).drop 1
  let digits := whole ++ (fraction ++ List.replicate 9 '0').take 9
  if whole.isEmpty && fraction.isEmpty || !digits.all Text.isDecimal then none
  else Text.natural? 10 digits

def sleep (arguments : List String) (input : Bytes) : Effect :=
  match arguments with
  | [] => .failure 1 "sleep: missing operand" input
  | all => match all.find? fun text => (nanoseconds? text).isNone with
    | some text => .failure 1 s!"sleep: invalid time interval '{text}'" input
    | none => { Effect.ofStatus 0 input with time := (all.filterMap nanoseconds?).foldl (· + ·) 0 }

def comparison? : String → Option (Nat → Nat → Bool)
  | "-eq" => some (· == ·)
  | "-ne" => some (· != ·)
  | "-lt" => some (· < ·)
  | "-le" => some (· ≤ ·)
  | "-gt" => some (· > ·)
  | "-ge" => some (· ≥ ·)
  | _ => none

def tested (read : Reading) : List String → Except String Bool
  | [] => .ok false
  | [text] => .ok (text ≠ "")
  | ["!", text] => .ok (text = "")
  | ["-n", text] => .ok (text ≠ "")
  | ["-z", text] => .ok (text = "")
  | ["-f", path] => .ok (read path).isOk
  | ["-e", path] => .ok (match read path with | .ok _ | .error .isADirectory => true | _ => false)
  | ["-d", path] => .ok (match read path with | .error .isADirectory => true | _ => false)
  | [a, "=", b] => .ok (a == b)
  | [a, "!=", b] => .ok (a != b)
  | "!" :: rest => (tested read rest).map (!·)
  | [a, operator, b] =>
    match comparison? operator, Text.natural? 10 a.toList, Text.natural? 10 b.toList with
    | some holds, some a, some b => .ok (holds a b)
    | some _, none, _ => .error s!"Illegal number: {a}"
    | some _, _, none => .error s!"Illegal number: {b}"
    | none, _, _ => .error s!"{operator}: unexpected operator"
  | first :: _ => .error s!"{first}: unexpected operator"

def utility? (read : Reading) : String → Option (List String → Bytes → Effect)
  | "cat" => some (cat read)
  | "echo" => some (echo false)
  | "false" => some fun _ input => .ofStatus 1 input
  | "head" => some head
  | "printf" => some printf
  | "sleep" => some sleep
  | "tr" => some tr
  | "true" => some fun _ input => .ofStatus 0 input
  | "wc" => some wc
  | _ => none

end ClusterLifecycle.Shell
