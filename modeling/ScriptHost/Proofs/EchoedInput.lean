import ScriptHost.Child.Basic
import ScriptHost.Proofs.JsonRoundTrip

/-!
A program that writes what it reads returns its input, with any white space around it.
-/
namespace ScriptHost

namespace Json

def closings : List Char := "le\"]\x7d".toList ++ decimals

theorem solid_of_mem {c : Char} (outer : c ∈ openings ++ closings) : Text.isBlank c = false := by
  have each : (openings ++ closings).all (fun c => !Text.isBlank c) = true := by decide
  simpa using List.all_eq_true.mp each c outer

theorem exists_moreItemChars (items : List Json) : ∃ cs, moreItemChars items = cs ++ [']'] := by
  induction items with
  | nil => exact ⟨[], rfl⟩
  | cons item items ih =>
    obtain ⟨cs, ends⟩ := ih
    exact ⟨',' :: (item.chars ++ cs), by rw [moreItemChars, ends]; simp⟩

theorem exists_moreMemberChars (members : List (String × Json)) :
    ∃ cs, moreMemberChars members = cs ++ ['\x7d'] := by
  induction members with
  | nil => exact ⟨[], rfl⟩
  | cons member members ih =>
    obtain ⟨cs, ends⟩ := ih
    exact ⟨',' :: (quoted member.1 ++ (':' :: (member.2.chars ++ cs))), by
      rw [moreMemberChars, ends]; simp⟩

theorem chars_ends {depth : Nat} {v : Json} (whole : Whole depth v) :
    ∃ cs c, v.chars = cs ++ [c] ∧ c ∈ closings := by
  have number {text : List Char} {n : Nat} (written : text = (toString n).toList) :
      ∃ cs c, text = cs ++ [c] ∧ c ∈ closings := by
    have digits : text = Nat.toDigits 10 n := written.trans Nat.toList_repr
    have some : text ≠ [] := digits ▸ Nat.toDigits_ne_nil
    have last : text.getLast some ∈ Nat.toDigits 10 n := digits ▸ List.getLast_mem some
    exact ⟨text.dropLast, text.getLast some, (List.dropLast_concat_getLast some).symm,
      List.mem_append_right _ (mem_decimals
        (Nat.isDigit_of_mem_toDigits (by decide) (by decide) last))⟩
  cases whole with
  | null => exact ⟨"nul".toList, 'l', rfl, by decide⟩
  | bool b =>
    cases b with
    | true => exact ⟨"tru".toList, 'e', rfl, by decide⟩
    | false => exact ⟨"fals".toList, 'e', rfl, by decide⟩
  | @int _ n range =>
    cases n with
    | ofNat n => exact number rfl
    | negSucc n =>
      obtain ⟨cs, c, ends, closing⟩ := number (n := n + 1) rfl
      exact ⟨'-' :: cs, c, by rw [chars, toList_negSucc, ends]; rfl, closing⟩
  | str s => exact ⟨'\x22' :: s.toList.flatMap escape, '\x22', rfl, by decide⟩
  | @arr _ items whole =>
    cases items with
    | nil => exact ⟨['['], ']', rfl, by decide⟩
    | cons item items =>
      obtain ⟨cs, ends⟩ := exists_moreItemChars items
      exact ⟨'[' :: (item.chars ++ cs), ']', by rw [chars, itemChars, ends]; simp, by decide⟩
  | @obj _ members sorted whole =>
    cases members with
    | nil => exact ⟨['\x7b'], '\x7d', rfl, by decide⟩
    | cons member members =>
      obtain ⟨cs, ends⟩ := exists_moreMemberChars members
      exact ⟨'\x7b' :: (quoted member.1 ++ (':' :: (member.2.chars ++ cs))), '\x7d', by
        rw [chars, memberChars, ends]; simp, by decide⟩

theorem trim_render {v : Json} {depth : Nat} (whole : Whole depth v) {before after : String}
    (blank : Text.blank before = true) (blank' : Text.blank after = true) :
    Text.trim (before ++ v.render ++ after) = v.render := by
  rw [Text.trim_eq_iff, String.toList_append, String.toList_append, render, String.toList_ofList]
  refine ⟨before.toList, after.toList, rfl, blank, blank', ?_, ?_⟩
  · obtain ⟨c, cs, begins, opening⟩ := chars_begins whole
    rw [begins]
    rintro _ ⟨⟩
    exact solid_of_mem (List.mem_append_left _ opening)
  · obtain ⟨cs, c, ends, closing⟩ := chars_ends whole
    rw [ends, List.getLast?_concat]
    rintro _ ⟨⟩
    exact solid_of_mem (List.mem_append_right _ closing)

end Json

namespace Bytes

theorem bytes_append (s t : String) : bytes (s ++ t) = bytes s ++ bytes t := by
  simp only [bytes, Text.Utf8.bytesOf_eq_encode, String.toList_append, Json.encode_append]

theorem lossy_bytes (s : String) : lossy (bytes s) = s := by
  have array : (bytes s).toByteArray = s.toByteArray := by
    rw [bytes, Text.Utf8.bytesOf_eq_encode]
    exact String.utf8Encode_toList
  have read : String.fromUTF8? s.toByteArray = some s := dif_pos s.isValidUTF8
  rw [lossy, array, Text.Utf8.textOf, read]

end Bytes

namespace Child

theorem streamText_bytes {s : String} (fits : (bytes s).length ≤ streamLimit) :
    streamText (bytes s) = s := by
  rw [streamText, List.take_of_length_le fits, Bytes.lossy_bytes]

theorem outputValue_render {v : Json} (whole : Json.Whole Json.depthLimit v) {before after : String}
    (blank : Text.blank before = true) (blank' : Text.blank after = true) :
    outputValue (before ++ v.render ++ after) = v := by
  have some : v.render.isEmpty = false := by
    obtain ⟨c, cs, begins, _⟩ := Json.chars_begins whole
    rw [Bool.eq_false_iff, ne_eq, String.isEmpty_iff, Json.render, begins]
    exact fun empty => List.cons_ne_nil c cs (String.ofList_eq_empty_iff.mp empty)
  rw [outputValue, Json.trim_render whole blank blank', some]
  simp only [Json.parseText_render whole]
  rfl

/-- A program that writes what it reads, with any white space before and after it, returns the input
of its run. -/
theorem evaluate_echo (computer : Computer) (program : String) (args : List String)
    (env : List (String × String)) (context : RunContext) (before after : String) (stderr : Bytes)
    (ms : Nat) (whole : Json.Whole Json.depthLimit context.input)
    (blank : Text.blank before = true) (blank' : Text.blank after = true) :
    let i : Invocation := ⟨program, args, env ++ scriptEnv context, bytes context.input.render⟩
    let written := bytes before ++ i.stdin ++ bytes after
    Invocation.hasNul i = false → computer i = .ended written stderr (.exited 0) ms →
      ms < context.timeoutMs → written.length ≤ streamLimit →
        evaluate computer program args env context =
          .ok ⟨context.input, logLines (streamText stderr)⟩ := by
  intro i written startable echoes inTime fits
  have text : written = bytes (before ++ context.input.render ++ after) := by
    rw [Bytes.bytes_append, Bytes.bytes_append]
  rw [text] at echoes fits
  rw [evaluate, run, if_neg (by rw [startable]; exact Bool.false_ne_true), echoes]
  simp only [if_neg (Nat.not_le.mpr inTime), streamText_bytes fits]
  change Except.ok (Report.output ⟨_, streamText stderr, 0⟩) = _
  rw [Report.output, outputValue_render whole blank blank']

theorem evaluate_echo_quoted :
    let input : Json := .obj [
      ("", .arr [.null, .bool true, .int (-9223372036854775808), .int 18446744073709551615]),
      ("\x00\x22\\", .str " \t\u3000 \x1f\x7f/\u2028\n"),
      ("k", .obj [("é", .str "𝄞"), ("𐀀", .arr [])])]
    let cat : Computer := fun i =>
      .ended (bytes "\n\u00a0" ++ i.stdin ++ bytes "\u3000\u0085") [] (.exited 0) 3
    evaluate cat "cat" [] [] ⟨"echo", 7, input, 1000⟩ = .ok ⟨input, []⟩ := by
  intro input cat
  have whole : Json.Whole Json.depthLimit input := by
    refine .obj (by unfold Named.Sorted; decide +kernel) fun member place => ?_
    simp only [List.mem_cons, List.not_mem_nil, or_false] at place
    rcases place with rfl | rfl | rfl
    · refine .arr fun item place => ?_
      simp only [List.mem_cons, List.not_mem_nil, or_false] at place
      rcases place with rfl | rfl | rfl | rfl
      · exact .null
      · exact .bool true
      · exact .int (by decide)
      · exact .int (by decide)
    · exact .str _
    · refine .obj (by unfold Named.Sorted; decide +kernel) fun member place => ?_
      simp only [List.mem_cons, List.not_mem_nil, or_false] at place
      rcases place with rfl | rfl
      · exact .str _
      · exact .arr nofun
  have echoed := evaluate_echo cat "cat" [] [] ⟨"echo", 7, input, 1000⟩ "\n\u00a0" "\u3000\u0085" []
    3 whole (by decide +kernel) (by decide +kernel)
  refine echoed ?_ rfl ?_ ?_
  · decide +kernel
  · decide
  · simp only [bytes, Text.Utf8.bytesOf_eq_encode]
    decide +kernel

end Child

end ScriptHost
