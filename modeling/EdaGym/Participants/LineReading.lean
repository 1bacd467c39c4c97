import EdaGym.Artifacts.Store
import EdaGym.Run.Replay

/-!
# Reading a line of a human participant

A text stream is the list of the characters left in it; it answers every read, and each character
has an encoding. A line is read in fragments of a quarter as many characters as bytes remain, as a
character has at most four of them.
-/

namespace EdaGym

/-! ### Characters and their bytes -/

/-- `fragment.encode("utf-8")`. -/
def encode (fragment : List Char) : Bytes := utf8 (String.ofList fragment)

@[simp] lemma encode_nil : encode [] = [] := rfl

lemma encode_append (cs cs' : List Char) : encode (cs ++ cs') = encode cs ++ encode cs' := by
  rw [encode, String.ofList_append, utf8_append]
  rfl

lemma length_encode_singleton (c : Char) : (encode [c]).length = c.utf8Size := by
  rw [← String.utf8ByteSize_singleton]
  rfl

lemma length_encode (cs : List Char) :
    cs.length ≤ (encode cs).length ∧ (encode cs).length ≤ 4 * cs.length := by
  induction cs with
  | nil => simp
  | cons c cs ih =>
    have hpos := c.utf8Size_pos
    have hfour := c.utf8Size_le_four
    rw [← List.singleton_append, encode_append, List.length_append, List.length_append,
      length_encode_singleton, List.length_singleton]
    omega

/-- The rest of a stream up to its first line feed. -/
def firstLine : List Char → List Char
  | [] => []
  | c :: cs => if c = '\n' then [c] else c :: firstLine cs

lemma firstLine_eq_nil {stream : List Char} : firstLine stream = [] ↔ stream = [] := by
  cases stream with
  | nil => simp [firstLine]
  | cons c cs =>
    rw [firstLine]
    split_ifs <;> simp

/-- `stream.readline(size)`. -/
def readline (size : Nat) (stream : List Char) : List Char := (firstLine stream).take size

/-- A fragment that does not end the line is followed by the rest of it. -/
lemma firstLine_eq_readline (size : Nat) (stream : List Char) :
    firstLine stream =
      if (readline size stream).getLast? = some '\n' then readline size stream
      else readline size stream ++ firstLine (stream.drop (readline size stream).length) := by
  induction stream generalizing size with
  | nil => simp [readline, firstLine]
  | cons c cs ih =>
    cases size with
    | zero => simp [readline]
    | succ size =>
      by_cases hc : c = '\n'
      · simp [readline, firstLine, hc]
      · have hfragment : readline (size + 1) (c :: cs) = c :: readline size cs := by
          simp [readline, firstLine, hc]
        have hlast : (c :: readline size cs).getLast? = some '\n' ↔
            (readline size cs).getLast? = some '\n' := by
          rw [List.getLast?_cons]
          cases (readline size cs).getLast? <;> simp [hc]
        rw [hfragment, firstLine, if_neg hc, ih size]
        simp only [hlast, List.length_cons, List.drop_succ_cons, List.cons_append]
        split_ifs <;> rfl

lemma length_drop_readline_lt {size : Nat} {stream : List Char} (h : readline size stream ≠ []) :
    (stream.drop (readline size stream).length).length < stream.length := by
  have hpos := List.length_pos_of_ne_nil h
  have hstream : stream ≠ [] := fun hnil => h (by simp [hnil, readline, firstLine])
  have := List.length_pos_of_ne_nil hstream
  rw [List.length_drop]
  omega

/-! ### The loop -/

/-- The loop of `_read_human_line`, with what it leaves in the stream. -/
def readLoop (bound : Nat) (chunks : List Bytes) (size : Nat) (stream : List Char) :
    Except ParticipantFailureKind Bytes × List Char :=
  let remaining := bound - size
  let fragment := readline (max 1 (remaining / 4)) stream
  let rest := stream.drop fragment.length
  if _ : fragment = [] then (if chunks = [] then .error .endOfInput else .ok chunks.flatten, rest)
  else
    let encoded := encode fragment
    if encoded.length > remaining then (.error .responseBound, rest)
    else if fragment.getLast? = some '\n' then (.ok (chunks ++ [encoded]).flatten, rest)
    else if size + encoded.length = bound then
      -- `stream.read(1)`
      if rest.take 1 = [] then (.ok (chunks ++ [encoded]).flatten, rest)
      else (.error .responseBound, rest.drop 1)
    else readLoop bound (chunks ++ [encoded]) (size + encoded.length) rest
termination_by stream.length
decreasing_by exact length_drop_readline_lt ‹_›

def readHumanLine (bound : Nat) (stream : List Char) :
    Except ParticipantFailureKind Bytes × List Char :=
  readLoop bound [] 0 stream

/-- What the loop returns, and what it leaves in the stream. -/
def LineRead (bound : Nat) (chunks : List Bytes) (size : Nat) (stream : List Char)
    (r : Except ParticipantFailureKind Bytes × List Char) : Prop :=
  if size + (encode (firstLine stream)).length ≤ bound then
    r = (if chunks = [] ∧ firstLine stream = [] then .error .endOfInput
      else .ok (chunks.flatten ++ encode (firstLine stream)),
      stream.drop (firstLine stream).length)
  else ∃ k, size + k ≤ bound + 1 ∧ r = (.error .responseBound, stream.drop k)

theorem lineRead_readLoop {bound size : Nat} {chunks : List Bytes} {stream : List Char}
    (hsize : size ≤ bound) :
    LineRead bound chunks size stream (readLoop bound chunks size stream) := by
  fun_induction readLoop bound chunks size stream with
  | case1 chunks size stream remaining fragment rest hempty =>
    have hstream : stream = [] := by
      rcases List.take_eq_nil_iff.mp hempty with hzero | hline
      · omega
      · exact firstLine_eq_nil.mp hline
    subst hstream
    simp [LineRead, firstLine, rest, hsize]
  | case2 chunks size stream remaining fragment rest hempty encoded hexceeds =>
    -- four bytes a character fit unless the fragment is a single character
    have hfour := (length_encode fragment).2
    have hlength : fragment.length ≤ max 1 (remaining / 4) := List.length_take_le _ _
    have hline : (encode (firstLine stream)).length =
        encoded.length + (encode ((firstLine stream).drop (max 1 (remaining / 4)))).length := by
      rw [← List.length_append, ← encode_append]
      exact congrArg (fun cs => (encode cs).length) (List.take_append_drop _ _).symm
    rw [LineRead, if_neg (by omega)]
    exact ⟨fragment.length, by omega, rfl⟩
  | case3 chunks size stream remaining fragment rest hempty encoded hfits hend =>
    have hline : firstLine stream = fragment :=
      (firstLine_eq_readline (max 1 (remaining / 4)) stream).trans (if_pos hend)
    rw [LineRead, hline, if_pos (show size + encoded.length ≤ bound by omega)]
    simp [hempty, rest, encoded]
  | case4 chunks size stream remaining fragment rest hempty encoded hfits hgoes hfull hover =>
    have hrest : rest = [] := by simpa using hover
    have hline : firstLine stream = fragment ++ firstLine rest :=
      (firstLine_eq_readline (max 1 (remaining / 4)) stream).trans (if_neg hgoes)
    rw [hrest, firstLine, List.append_nil] at hline
    rw [LineRead, hline, if_pos (show size + encoded.length ≤ bound by omega)]
    simp [hempty, rest, encoded]
  | case5 chunks size stream remaining fragment rest hempty encoded hfits hgoes hfull hover =>
    have hrest : rest ≠ [] := by simpa using hover
    have hline : firstLine stream = fragment ++ firstLine rest :=
      (firstLine_eq_readline (max 1 (remaining / 4)) stream).trans (if_neg hgoes)
    have hmore : 0 < (firstLine rest).length := by
      rw [List.length_pos_iff, ne_eq, firstLine_eq_nil]
      exact hrest
    have hpos := (length_encode (firstLine rest)).1
    have hchars : fragment.length ≤ encoded.length := (length_encode fragment).1
    have hover : ¬ size + (encoded.length + (encode (firstLine rest)).length) ≤ bound := by omega
    rw [LineRead, hline, encode_append, List.length_append, if_neg hover]
    exact ⟨fragment.length + 1, by omega, by simp [rest]⟩
  | case6 chunks size stream remaining fragment rest hempty encoded hfits hgoes hfull ih =>
    have hline : firstLine stream = fragment ++ firstLine rest :=
      (firstLine_eq_readline (max 1 (remaining / 4)) stream).trans (if_neg hgoes)
    have hchars : fragment.length ≤ encoded.length := (length_encode fragment).1
    have hread := ih (by omega)
    rw [LineRead] at hread ⊢
    rw [hline, encode_append, List.length_append, ← Nat.add_assoc]
    by_cases hwithin : size + encoded.length + (encode (firstLine rest)).length ≤ bound
    · rw [if_pos hwithin] at hread
      rw [if_pos hwithin, hread]
      simp [hempty, rest, encoded]
    · rw [if_neg hwithin] at hread
      rw [if_neg hwithin]
      obtain ⟨k, hk, hr⟩ := hread
      exact ⟨fragment.length + k, by omega, by simp [hr, rest]⟩

/-- Calls one after another, and what they leave in the stream. -/
def readHumanLines (bound : Nat) : Nat → List Char →
    List (Except ParticipantFailureKind Bytes) × List Char
  | 0, stream => ([], stream)
  | calls + 1, stream =>
    let (result, stream) := readHumanLine bound stream
    let (results, stream) := readHumanLines bound calls stream
    (result :: results, stream)

lemma firstLine_append {body : List Char} (h : '\n' ∉ body) (rest : List Char) :
    firstLine (body ++ '\n' :: rest) = body ++ ['\n'] := by
  induction body with
  | nil => simp [firstLine]
  | cons c cs ih =>
    obtain ⟨hc, hcs⟩ := not_or.mp (mt List.mem_cons.mpr h)
    rw [List.cons_append, firstLine, if_neg (Ne.symm hc), ih hcs, List.cons_append]

/-- A call, by the length of the line. -/
lemma readHumanLine_of_le {bound : Nat} {stream : List Char}
    (h : (encode (firstLine stream)).length ≤ bound) :
    readHumanLine bound stream =
      (if firstLine stream = [] then .error .endOfInput else .ok (encode (firstLine stream)),
        stream.drop (firstLine stream).length) := by
  have hread := @lineRead_readLoop bound 0 [] stream bound.zero_le
  rw [LineRead, if_pos (by omega)] at hread
  rw [readHumanLine]
  simpa using hread

lemma readHumanLine_of_lt {bound : Nat} {stream : List Char}
    (h : bound < (encode (firstLine stream)).length) :
    ∃ k ≤ bound + 1, readHumanLine bound stream = (.error .responseBound, stream.drop k) := by
  have hread := @lineRead_readLoop bound 0 [] stream bound.zero_le
  rw [LineRead, if_neg (by omega)] at hread
  obtain ⟨k, hk, hr⟩ := hread
  exact ⟨k, by omega, hr⟩

theorem readHumanLine_exact (bound : Nat) :
    (∀ stream result rest, readHumanLine bound stream = (result, rest) →
      (result = .error .endOfInput ↔ firstLine stream = []) ∧
      (∀ line, result = .ok line ↔
        line = encode (firstLine stream) ∧ 1 ≤ line.length ∧ line.length ≤ bound) ∧
      (result = .error .responseBound ↔ bound < (encode (firstLine stream)).length) ∧
      (result ≠ .error .responseBound → rest = stream.drop (firstLine stream).length) ∧
      ∃ k ≤ bound + 1, rest = stream.drop k) ∧
    ∀ (bodies : List (List Char)) (rest : List Char),
      (∀ body ∈ bodies, '\n' ∉ body ∧ (encode (body ++ ['\n'])).length ≤ bound) →
      readHumanLines bound bodies.length (bodies.flatMap (· ++ ['\n']) ++ rest) =
        (bodies.map fun body => .ok (encode (body ++ ['\n'])), rest) := by
  refine ⟨fun stream result rest h => ?_, fun bodies rest hbodies => ?_⟩
  · have hchars := (length_encode (firstLine stream)).1
    rcases Nat.lt_or_ge bound (encode (firstLine stream)).length with hlt | hle
    · obtain ⟨k, hk, hread⟩ := readHumanLine_of_lt hlt
      obtain ⟨rfl, rfl⟩ := Prod.mk.inj (h.symm.trans hread)
      have hne : firstLine stream ≠ [] := by
        rintro hnil
        simp [hnil] at hlt
      refine ⟨by simp [hne], fun line => ?_, by simp [hlt], by simp, k, hk, rfl⟩
      simp only [reduceCtorEq, false_iff, not_and, not_le]
      rintro rfl -
      exact hlt
    · obtain ⟨rfl, rfl⟩ := Prod.mk.inj (h.symm.trans (readHumanLine_of_le hle))
      refine ⟨?_, fun line => ?_, ?_, fun _ => rfl, _, by omega, rfl⟩
      · split_ifs with hnil <;> simp [hnil]
      · by_cases hnil : firstLine stream = []
        · simp [hnil]
          rintro rfl
          simp
        · have hpos := List.length_pos_of_ne_nil hnil
          rw [if_neg hnil, Except.ok.injEq, eq_comm]
          constructor
          · rintro rfl
            exact ⟨rfl, by omega, hle⟩
          · exact fun h => h.1
      · split_ifs <;> simp [hle]
  · induction bodies with
    | nil => rfl
    | cons body bodies ih =>
      obtain ⟨hbody, hfits⟩ := hbodies body List.mem_cons_self
      have hline := firstLine_append hbody (bodies.flatMap (· ++ ['\n']) ++ rest)
      have hstream : (body :: bodies).flatMap (· ++ ['\n']) ++ rest =
          body ++ '\n' :: (bodies.flatMap (· ++ ['\n']) ++ rest) := by simp
      rw [hstream, List.length_cons, readHumanLines, readHumanLine_of_le (by rwa [hline]), hline]
      simp [ih fun body h => hbodies body (List.mem_cons_of_mem _ h)]

end EdaGym
