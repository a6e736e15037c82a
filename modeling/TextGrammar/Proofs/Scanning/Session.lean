import TextGrammar.Proofs.Scanning.Draining

/-!
What is asked of a scanner, in any order. Texts may be loaded while others are half cut, and a
request may end in an error. Each buffer is still cut as if it were alone, from its start and
without a gap, and it is on the stack until it has been cut to its end.
-/

namespace TextGrammar

inductive Request where
  | load (text : List Char)
  | next
  | all (ignore : List String)

/-- A scanner with what has become of it: the texts that were loaded and the lexemes that were
cut, both in order. A buffer has the number of its text as its serial number. -/
structure Session where
  scanner : Scanner
  loaded : List (List Char)
  cut : List Lexeme

namespace Session

def start (lexicon : Lexicon) : Session := ⟨.ofLexicon lexicon, [], []⟩

def handed : Except LexicalError (Option Lexeme) → List Lexeme
  | .ok (some lexeme) => [lexeme]
  | .ok none | .error _ => []

/-- What becomes of a session when a request is answered. While a scanner is drained, also the
lexemes are cut that are ignored or lost. -/
def answer (session : Session) : Request → Session
  | .load text =>
      { session with
        scanner := session.scanner.load session.loaded.length text
        loaded := session.loaded ++ [text] }
  | .next =>
      let (result, scanner) := session.scanner.next
      { session with scanner := scanner, cut := session.cut ++ handed result }
  | .all ignore =>
      let (_, scanner) := session.scanner.all ignore
      { session with
        scanner := scanner
        cut := session.cut ++ Scanner.handOut session.scanner.lexicon
          (Scanner.remaining session.scanner.buffers + 1) session.scanner.buffers }

def run (lexicon : Lexicon) (requests : List Request) : Session :=
  requests.foldl answer (start lexicon)

end Session

def ofSerial (serial : Nat) (lexemes : List Lexeme) : List Lexeme :=
  lexemes.filter (·.source.serial = serial)

/-- Whether a stack of buffers is what is left of some texts when some lexemes have been cut. -/
structure Undisturbed (lexicon : Lexicon) (loaded : List (List Char)) (cut : List Lexeme)
    (buffers : List Buffer) : Prop where
  named : ∀ above buffer below, buffers = above ++ buffer :: below →
    buffer.source.name = "buff#" ++ toString below.length
  distinct : (buffers.map (·.source.serial)).Nodup
  known : ∀ buffer ∈ buffers, loaded[buffer.source.serial]? = some buffer.source.text
  numbered : ∀ lexeme ∈ cut, lexeme.source.serial < loaded.length
  cutting : ∀ serial text, loaded[serial]? = some text → ∃ name after,
    (Buffer.ofSource ⟨serial, name, text⟩).Cuts lexicon (ofSerial serial cut) after ∧
      (after ∈ buffers ∨ after.rest = [] ∧ ∀ buffer ∈ buffers, buffer.source.serial ≠ serial)

namespace Undisturbed

variable {lexicon : Lexicon} {loaded : List (List Char)} {cut handed : List Lexeme}
  {buffer : Buffer} {buffers below after : List Buffer} {id : TokenId} {count : Nat}

theorem eq_top (intact : Undisturbed lexicon loaded cut (buffer :: below)) {other : Buffer}
    (member : other ∈ buffer :: below) (same : other.source.serial = buffer.source.serial) :
    other = buffer := by
  have fresh := (List.nodup_cons.mp intact.distinct).1
  rcases List.mem_cons.mp member with rfl | later
  · rfl
  · exact absurd (List.mem_map.mpr ⟨other, later, same⟩) fresh

theorem pop (intact : Undisturbed lexicon loaded cut (buffer :: below)) (done : buffer.rest = []) :
    Undisturbed lexicon loaded cut below where
  named above other rest split := intact.named (buffer :: above) other rest (by rw [split]; rfl)
  distinct := (List.nodup_cons.mp intact.distinct).2
  known other member := intact.known other (List.mem_cons_of_mem buffer member)
  numbered := intact.numbered
  cutting serial text present := by
    obtain ⟨name, left, cuts, on | ⟨spent, off⟩⟩ := intact.cutting serial text present
    · refine ⟨name, left, cuts, ?_⟩
      rcases List.mem_cons.mp on with rfl | later
      · -- the others have other numbers
        refine .inr ⟨done, fun other member same => ?_⟩
        have number : left.source.serial = serial := by rw [cuts.source.1]; rfl
        have fresh := (List.nodup_cons.mp intact.distinct).1
        exact fresh (List.mem_map.mpr ⟨other, member, same.trans number.symm⟩)
      · exact .inl later
    · exact ⟨name, left, cuts, .inr
        ⟨spent, fun other member => off other (List.mem_cons_of_mem buffer member)⟩⟩

theorem advance (intact : Undisturbed lexicon loaded cut (buffer :: below))
    (more : buffer.rest ≠ []) (takes : lexicon.Takes buffer.rest id count) :
    Undisturbed lexicon loaded (cut ++ [buffer.lexeme id count])
      (buffer.advance count :: below) where
  named above other rest split := by
    cases above with
    | nil =>
        cases split
        exact intact.named [] buffer below rfl
    | cons first above =>
        cases split
        exact intact.named (buffer :: above) other rest rfl
  distinct := intact.distinct
  known other member := by
    rcases List.mem_cons.mp member with rfl | later
    · exact intact.known buffer List.mem_cons_self
    · exact intact.known other (List.mem_cons_of_mem buffer later)
  numbered lexeme member := by
    rcases List.mem_append.mp member with before | last
    · exact intact.numbered lexeme before
    · rw [List.mem_singleton.mp last]
      exact (List.getElem?_eq_some_iff.mp (intact.known buffer List.mem_cons_self)).1
  cutting serial text present := by
    obtain ⟨name, left, cuts, place⟩ := intact.cutting serial text present
    have number : left.source.serial = serial := by rw [cuts.source.1]; rfl
    by_cases same : buffer.source.serial = serial
    · -- what is left of this text is the buffer on top
      have top : left = buffer := by
        rcases place with on | ⟨-, off⟩
        · exact intact.eq_top on (number.trans same.symm)
        · exact absurd same (off buffer List.mem_cons_self)
      subst top
      refine ⟨name, left.advance count, ?_, .inl List.mem_cons_self⟩
      have added : ofSerial serial (cut ++ [left.lexeme id count]) =
          ofSerial serial cut ++ [left.lexeme id count] := by
        simp [ofSerial, Buffer.lexeme, same]
      rw [added]
      exact cuts.snoc more takes
    · have kept : ofSerial serial (cut ++ [buffer.lexeme id count]) = ofSerial serial cut := by
        simp [ofSerial, Buffer.lexeme, same]
      rw [kept]
      refine ⟨name, left, cuts, ?_⟩
      rcases place with on | ⟨spent, off⟩
      · rcases List.mem_cons.mp on with rfl | later
        · exact absurd number same
        · exact .inl (List.mem_cons_of_mem _ later)
      · refine .inr ⟨spent, List.forall_mem_cons.mpr ⟨same, ?_⟩⟩
        exact fun other member => off other (List.mem_cons_of_mem buffer member)

theorem load (intact : Undisturbed lexicon loaded cut buffers) (text : List Char) :
    Undisturbed lexicon (loaded ++ [text]) cut
      (.ofSource ⟨loaded.length, "buff#" ++ toString buffers.length, text⟩ :: buffers) where
  named above other rest split := by
    cases above with
    | nil =>
        cases split
        rfl
    | cons first above =>
        cases split
        exact intact.named above other rest rfl
  distinct := by
    refine List.nodup_cons.mpr ⟨fun again => ?_, intact.distinct⟩
    obtain ⟨other, member, same⟩ := List.mem_map.mp again
    have bound := (List.getElem?_eq_some_iff.mp (intact.known other member)).1
    exact absurd same (Nat.ne_of_lt bound)
  known other member := by
    rcases List.mem_cons.mp member with rfl | earlier
    · exact List.getElem?_concat_length
    · have here := intact.known other earlier
      rwa [List.getElem?_append_left (List.getElem?_eq_some_iff.mp here).1]
  numbered lexeme member := by
    rw [List.length_append]
    exact Nat.lt_add_right _ (intact.numbered lexeme member)
  cutting serial other present := by
    rcases Nat.lt_or_ge serial loaded.length with earlier | new
    · rw [List.getElem?_append_left earlier] at present
      obtain ⟨name, left, cuts, on | ⟨spent, off⟩⟩ := intact.cutting serial other present
      · exact ⟨name, left, cuts, .inl (List.mem_cons_of_mem _ on)⟩
      · exact ⟨name, left, cuts, .inr ⟨spent, List.forall_mem_cons.mpr
          ⟨Nat.ne_of_gt earlier, off⟩⟩⟩
    · have bound := (List.getElem?_eq_some_iff.mp present).1
      rw [List.length_append, List.length_singleton] at bound
      obtain rfl : serial = loaded.length := by omega
      rw [List.getElem?_concat_length] at present
      cases present
      -- nothing has been cut from it yet
      have none : ofSerial loaded.length cut = [] :=
        List.filter_eq_nil_iff.mpr fun lexeme member => by
          simpa using Nat.ne_of_lt (intact.numbered lexeme member)
      refine ⟨"buff#" ++ toString buffers.length, _, ?_, .inl List.mem_cons_self⟩
      rw [none]
      exact .nothing _

theorem next {result : Except LexicalError (Option Lexeme)}
    (intact : Undisturbed lexicon loaded cut buffers)
    (gives : Scanner.Gives lexicon buffers result after) :
    Undisturbed lexicon loaded (cut ++ Session.handed result) after := by
  induction gives with
  | nothing | noMatch => simpa [Session.handed] using intact
  | done done _ ih => exact ih (intact.pop done)
  | lexeme more takes => exact intact.advance more takes

theorem drains {ignored : List TokenId} {result : Except LexicalError (List Lexeme)}
    (intact : Undisturbed lexicon loaded cut buffers)
    (drains : Scanner.Drains lexicon ignored buffers handed result after) :
    Undisturbed lexicon loaded (cut ++ handed) after := by
  induction drains generalizing cut with
  | done next | failed next | empty next => exact intact.next (Scanner.gives_of_nextFrom next)
  | lexeme next _ _ ih =>
      have following := intact.next (Scanner.gives_of_nextFrom next)
      simpa [Session.handed] using ih following

end Undisturbed

namespace Session

variable {lexicon : Lexicon}

theorem undisturbed_answer {session : Session} (known : session.scanner.lexicon = lexicon)
    (intact : Undisturbed lexicon session.loaded session.cut session.scanner.buffers)
    (request : Request) :
    (session.answer request).scanner.lexicon = lexicon ∧
      Undisturbed lexicon (session.answer request).loaded (session.answer request).cut
        (session.answer request).scanner.buffers := by
  subst known
  cases request with
  | load text => exact ⟨rfl, intact.load text⟩
  | next => exact ⟨rfl, intact.next (Scanner.gives_nextFrom _ _)⟩
  | all ignore => exact ⟨rfl, intact.drains (session.scanner.drains_all ignore)⟩

theorem undisturbed_run (lexicon : Lexicon) (requests : List Request) :
    (run lexicon requests).scanner.lexicon = lexicon ∧
      Undisturbed lexicon (run lexicon requests).loaded (run lexicon requests).cut
        (run lexicon requests).scanner.buffers := by
  induction requests using List.reverseRecOn with
  | nil =>
      refine ⟨rfl, ?_, List.nodup_nil, List.forall_mem_nil _, List.forall_mem_nil _, ?_⟩
      · intro above buffer below split
        simp [run, start, Scanner.ofLexicon] at split
      · intro serial text present
        simp [run, start] at present
  | append_singleton requests request ih =>
      rw [run, List.foldl_append]
      exact undisturbed_answer ih.1 ih.2 request

end Session

def Lexeme.of (lexeme : Lexeme) (source : Source) : Lexeme := { lexeme with source := source }

namespace Scanner

/-- The first lexemes that a scanner cuts, at most so many. -/
def first (scanner : Scanner) : Nat → List Lexeme
  | 0 => []
  | count + 1 =>
      match scanner.next with
      | (.ok (some lexeme), scanner) => lexeme :: scanner.first count
      | _ => []

theorem first_of_cuts {lexicon : Lexicon} {buffer after : Buffer} {lexemes : List Lexeme}
    (cuts : buffer.Cuts lexicon lexemes after) (other : Buffer)
    (cursor : other.cursor = buffer.cursor) (rest : other.rest = buffer.rest) :
    ((⟨lexicon, [other]⟩ : Scanner).first lexemes.length).map (·.of buffer.source) = lexemes := by
  induction cuts generalizing other with
  | nothing => rfl
  | @lexeme buffer after id count later more takes _ ih =>
      have comes : (⟨lexicon, [other]⟩ : Scanner).next =
          (.ok (some (other.lexeme id count)), ⟨lexicon, [other.advance count]⟩) := by
        rw [next, nextFrom_of_takes (rest ▸ more) (rest ▸ takes)]
      have behind := ih (other.advance count) (by simp only [Buffer.advance, cursor, rest])
        (by simp only [Buffer.advance, rest])
      rw [List.length_cons, first, comes]
      refine congrArg₂ List.cons ?_ behind
      simp only [Lexeme.of, Buffer.lexeme, cursor, rest]

end Scanner

namespace Session

/-- What a session says of a text that was loaded. Its lexemes lie end to end from the start of
the text, they are the first ones of a scanner that is given nothing but this text, and its buffer
is off the stack only if they reach to the end. -/
structure Apart (session : Session) (lexicon : Lexicon) (source : Source) (own : List Lexeme)
    (stop : Nat) : Prop where
  abut : Abut 0 stop own
  alone : own = (((Scanner.ofLexicon lexicon).load 0 source.text).first own.length).map
    (·.of source)
  place : (∃ buffer ∈ session.scanner.buffers, buffer.source = source ∧ buffer.cursor = stop) ∨
    stop = source.size ∧
      ∀ buffer ∈ session.scanner.buffers, buffer.source.serial ≠ source.serial

theorem apart {session : Session} {lexicon : Lexicon} {serial : Nat} {text : List Char}
    (intact : Undisturbed lexicon session.loaded session.cut session.scanner.buffers)
    (present : session.loaded[serial]? = some text) : ∃ name stop,
      session.Apart lexicon ⟨serial, name, text⟩ (ofSerial serial session.cut) stop := by
  obtain ⟨name, after, cuts, place⟩ := intact.cutting serial text present
  let fresh := Buffer.ofSource ⟨0, "buff#" ++ toString 0, text⟩
  refine ⟨name, after.cursor, cuts.abut, (Scanner.first_of_cuts cuts fresh rfl rfl).symm, ?_⟩
  rcases place with on | ⟨spent, off⟩
  · exact .inl ⟨after, on, cuts.source.1, rfl⟩
  · have whole := after.size_cut
    rw [spent, Text.size, Nat.add_zero, cuts.source.1] at whole
    exact .inr ⟨whole, off⟩

/-- Buffers do not disturb one another, whatever is asked of a scanner. Each of them bears its
place in the stack in its name and has its cursor between two characters of its text. Each text
that was loaded is cut apart from the others, and where there is no next lexeme, every one of them
has been cut to its end. -/
theorem run_undisturbed (lexicon : Lexicon) (requests : List Request) :
    let session := run lexicon requests
    (∀ above buffer below, session.scanner.buffers = above ++ buffer :: below →
      buffer.source.name = "buff#" ++ toString below.length ∧
        buffer.cursor ≤ buffer.source.size ∧
        ∃ front, front ++ buffer.rest = buffer.source.text ∧ Text.size front = buffer.cursor) ∧
    (∀ serial text, session.loaded[serial]? = some text → ∃ name stop,
      session.Apart lexicon ⟨serial, name, text⟩ (ofSerial serial session.cut) stop) ∧
    (session.scanner.next.1 = .ok none → ∀ serial text, session.loaded[serial]? = some text →
      Abut 0 (Text.size text) (ofSerial serial session.cut)) := by
  intro session
  obtain ⟨known, intact⟩ := undisturbed_run lexicon requests
  refine ⟨fun above buffer below split => ⟨intact.named above buffer below split, ?_,
    buffer.split⟩, fun serial text => apart intact, fun done serial text present => ?_⟩
  · exact Nat.le_of_add_right_le (Nat.le_of_eq buffer.size_cut)
  · obtain ⟨name, stop, abut, -, ⟨buffer, on, same, rfl⟩ | ⟨rfl, -⟩⟩ := apart intact present
    · have whole := buffer.size_cut
      have spent := (Scanner.gives_nextFrom _ _).exhausted done buffer on
      rw [spent, same, Text.size, Nat.add_zero] at whole
      rw [whole] at abut
      exact abut
    · exact abut

/-- The second text is loaded when the first one is half cut, and cut before the first one is gone
on with. -/
theorem run_undisturbed_words :
    let half := run Scanner.words [.load "so on".toList, .next, .load "of all".toList, .next]
    let whole := run Scanner.words
      [.load "so on".toList, .next, .load "of all".toList, .next, .all ["blank"]]
    (∃ buffer below, half.scanner.buffers = buffer :: below ∧
      buffer.source.name = "buff#" ++ toString below.length) ∧
    whole.cut.map (·.text) = ["so", "of", " ", "all", " ", "on"].map String.toList ∧
    whole.scanner.next.1 = .ok none ∧
    (∃ name stop, whole.Apart Scanner.words ⟨0, name, "so on".toList⟩ (ofSerial 0 whole.cut) stop) ∧
    Abut 0 (Text.size "of all".toList) (ofSerial 1 whole.cut) := by
  obtain ⟨places, -, -⟩ := run_undisturbed Scanner.words
    [.load "so on".toList, .next, .load "of all".toList, .next]
  obtain ⟨-, apart, ends⟩ := run_undisturbed Scanner.words
    [.load "so on".toList, .next, .load "of all".toList, .next, .all ["blank"]]
  have names : (run Scanner.words [.load "so on".toList, .next, .load "of all".toList, .next]
      ).scanner.buffers.map (·.source.name) = ["buff#1", "buff#0"] := by cbv
  obtain ⟨buffer, below, stack, -⟩ := List.map_eq_cons_iff.mp names
  have finished : (run Scanner.words [.load "so on".toList, .next, .load "of all".toList, .next,
      .all ["blank"]]).scanner.next.1 = .ok none := by cbv
  refine ⟨⟨buffer, below, stack, (places [] buffer below stack).1⟩, ?_, finished,
    apart 0 "so on".toList rfl, ends finished 1 "of all".toList rfl⟩
  cbv

end Session

end TextGrammar
