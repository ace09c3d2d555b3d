import BeanMetrics.Metric.Exposition
import BeanMetrics.Metric.Name

/-!
A reader of the text exposition format. It cuts the text into lines, takes every line for the one
kind that its beginning shows, and gives the samples behind a type line to the family of that line.
-/

namespace BeanMetrics
namespace Exposition

/-- A sample as its line tells it; the value is the text that stands for it. -/
structure ReadSample where
  name : String
  labels : List (String × String)
  value : String
  deriving DecidableEq, Repr

structure ReadFamily where
  name : String
  type : MetricType
  help : String
  samples : List ReadSample
  deriving DecidableEq, Repr

inductive Line where
  | help (name text : String)
  | type (name : String) (type : MetricType)
  | sample (sample : ReadSample)
  deriving DecidableEq, Repr

/-- A help text with its escapes undone; a backslash that begins none of them is an error. -/
def readHelp : List Char → Option (List Char)
  | [] => some []
  | '\\' :: '\\' :: rest => (readHelp rest).map ('\\' :: ·)
  | '\\' :: 'n' :: rest => (readHelp rest).map ('\n' :: ·)
  | '\\' :: _ => none
  | c :: rest => (readHelp rest).map (c :: ·)

/-- The value of a label up to the quote that closes it, and what follows the quote. -/
def readQuoted : List Char → Option (List Char × List Char)
  | [] => none
  | '"' :: rest => some ([], rest)
  | '\\' :: '\\' :: rest => (readQuoted rest).map fun (value, rest) => ('\\' :: value, rest)
  | '\\' :: '"' :: rest => (readQuoted rest).map fun (value, rest) => ('"' :: value, rest)
  | '\\' :: 'n' :: rest => (readQuoted rest).map fun (value, rest) => ('\n' :: value, rest)
  | '\\' :: _ => none
  | c :: rest => (readQuoted rest).map fun (value, rest) => (c :: value, rest)

theorem readQuoted_length {s value rest : List Char} (h : readQuoted s = some (value, rest)) :
    rest.length < s.length := by
  fun_induction readQuoted s generalizing value with
  | case1 => simp at h
  | case2 s =>
    simp only [Option.some.injEq, Prod.mk.injEq] at h
    simp [h.2]
  | case3 s ih | case4 s ih | case5 s ih | case7 _ s _ _ _ _ _ ih =>
    obtain ⟨⟨v, r⟩, hq, he⟩ := Option.map_eq_some_iff.mp h
    obtain ⟨-, rfl⟩ := Prod.mk.inj he
    have := ih hq
    simp only [List.length_cons]
    omega
  | case6 => simp at h

def readLabel (s : List Char) : Option ((String × String) × List Char) := do
  let (label, rest) ← Text.splitFirst '=' s
  match rest with
  | '"' :: quoted =>
    let (value, rest) ← readQuoted quoted
    return ((String.ofList label, String.ofList value), rest)
  | _ => none

theorem readLabel_length {s rest : List Char} {label : String × String}
    (h : readLabel s = some (label, rest)) : rest.length < s.length := by
  simp only [readLabel, Option.bind_eq_bind, Option.bind_eq_some_iff, Prod.exists] at h
  obtain ⟨name, behind, hs, h⟩ := h
  split at h
  · obtain ⟨⟨value, behind'⟩, hq, he⟩ := Option.bind_eq_some_iff.mp h
    have hl := readQuoted_length hq
    obtain ⟨-, rfl⟩ := Prod.mk.inj (Option.some.inj he)
    rw [(Text.splitFirst_eq_some_iff.mp hs).1, List.length_append]
    simp only [List.length_cons]
    omega
  · simp at h

def readLabels (s : List Char) : Option (List (String × String) × List Char) :=
  match _ : readLabel s with
  | some (label, ',' :: rest) => (readLabels rest).map fun (labels, rest) => (label :: labels, rest)
  | some (label, '\x7d' :: rest) => some ([label], rest)
  | _ => none
termination_by s.length
decreasing_by
  have hl := readLabel_length ‹readLabel s = some (label, ',' :: rest)›
  simp only [List.length_cons] at hl
  omega

def readSample (s : List Char) : Option ReadSample :=
  let name := String.ofList (s.takeWhile MetricName.isNameChar)
  match s.dropWhile MetricName.isNameChar with
  | '\x7b' :: block =>
    match readLabels block with
    | some (labels, ' ' :: value) => some ⟨name, labels, String.ofList value⟩
    | _ => none
  | ' ' :: value => some ⟨name, [], String.ofList value⟩
  | _ => none

def readType (name : List Char) : Option MetricType :=
  [MetricType.gauge, .counter, .untyped].find? fun type => type.name.toList = name

def readLine (s : List Char) : Option Line :=
  match Text.dropStart? "# HELP ".toList s with
  | some rest => do
    let (name, help) ← Text.splitFirst ' ' rest
    return .help (String.ofList name) (String.ofList (← readHelp help))
  | none =>
    match Text.dropStart? "# TYPE ".toList s with
    | some rest => do
      let (name, type) ← Text.splitFirst ' ' rest
      return .type (String.ofList name) (← readType type)
    | none => (readSample s).map .sample

/-- The samples in front of the first family, and the families. A help line and a type line for the
same name begin a family. -/
def assemble : List Line → Option (List ReadSample × List ReadFamily)
  | [] => some ([], [])
  | .sample s :: rest => (assemble rest).map fun (samples, families) => (s :: samples, families)
  | .help name help :: .type name' type :: rest =>
    if name = name' then
      (assemble rest).map fun (samples, families) => ([], ⟨name, type, help, samples⟩ :: families)
    else none
  | _ => none

/-- The families that a text exposes. The piece behind the last line feed is no line. -/
def decode (text : String) : Option (List ReadFamily) := do
  let lines ← (Text.splitAll '\n' text.toList).dropLast.mapM readLine
  match ← assemble lines with
  | ([], families) => some families
  | _ => none

end Exposition
end BeanMetrics
