/-
  Decodables.Proofs.RunOutcome — what a run leaves behind.

  A run first finds out what to answer, which changes nothing. Then it warns, and delivers
  the answer in one piece: to the output, or into one file after the directories above it
  are made. Making them may stop half way, which leaves directories but touches no file.

  Proved, over every session and request:
  - `answer_ok_iff`, `obtain_eq`, `perform_eq`: what is answered, and that nothing happens
    before that.
  - `ensureDirectory_adds`, `ensureDirectories_adds`: a step and a run of making directories
    only ever add some that are asked for.
  - `deliver_none`, `deliver_some`, `deliver_complaints`: what a delivery leaves, be it in
    vain or not.
  - `run_complaints`: a run that finds an answer tells its warnings, and then only why the
    delivery failed if it did.
  - `run_outcome`: a run that fails writes no file and prints nothing, and one that does not
    writes its answer in one place.
-/

import Decodables.Command.Session
import Decodables.Proofs.PayloadReading
import Decodables.Proofs.TreeGrowth

namespace Decodables.Command.Session

variable {s : Session}

/-! ## What is answered -/

def text (s : Session) (source : Option String) : Except RunFailure String :=
  let bytes :=
    match source with
    | some path => s.files.read path
    | none => .ok s.input
  match bytes with
  | .error fault => .error (.unread source fault)
  | .ok bytes => (decodeText bytes).mapError (.unread source)

/-- What a request comes to before anything is delivered. -/
def answer (s : Session) (a : Arguments) : Except RunFailure Answer :=
  match s.text a.source? with
  | .error failure => .error failure
  | .ok text => (a.answer text).mapError .unanswered

/-- The bytes of a text are read as that text. -/
theorem decodeText_toUTF8 (t : String) : decodeText t.toUTF8 = .ok t := by
  have valid : t.toUTF8.IsValidUTF8 := t.isValidUTF8
  rw [decodeText, String.fromUTF8?, dif_pos valid]
  rfl

theorem text_input (files : FileTree) (t : String) : (start files t.toUTF8).text none = .ok t := by
  unfold text
  dsimp only [start]
  rw [decodeText_toUTF8]
  rfl

theorem answer_ok_iff {a : Arguments} {answer : Answer} :
    s.answer a = .ok answer ↔ ∃ text, s.text a.source? = .ok text ∧ a.answer text = .ok answer := by
  unfold Session.answer
  cases s.text a.source? with
  | error failure => simp
  | ok text =>
    simp only [Except.ok.injEq, exists_eq_left']
    cases a.answer text with
    | error failure => exact iff_of_false nofun nofun
    | ok found =>
      constructor <;>
      · intro same
        cases same
        rfl

def complain (s : Session) (text : String) : Session := { s with complaints := s.complaints ++ text }

def told (color : Bool) (warnings : List Warning) : String :=
  String.join (warnings.map fun w => Label.warning.line color w.message)

/-- An action and what goes on with its result, one after the other. -/
theorem bind_run {α β : Type} (x : StateM Session α) (f : α → StateM Session β) (s : Session) :
    (x >>= f) s = f (x s).1 (x s).2 := rfl

theorem pure_run {α : Type} (a : α) (s : Session) : (pure a : StateM Session α) s = (a, s) := rfl

theorem obtain_eq (s : Session) (source : Option String) : host.obtain source s = (s.text source, s) := by
  unfold Host.obtain text
  cases source with
  | none =>
    dsimp only
    rw [bind_run]
    dsimp only [host]
    cases decodeText s.input <;> rfl
  | some path =>
    dsimp only
    rw [bind_run]
    dsimp only [host]
    cases s.files.read path with
    | error fault => rfl
    | ok bytes =>
      dsimp only
      cases decodeText bytes <;> rfl

/-- Before anything is delivered nothing happens but that the warnings are told. -/
theorem warn_eq (s : Session) (color : Bool) (warnings : List Warning) :
    (warnings.forM fun w => host.complain (Label.warning.line color w.message)) s =
      ((), s.complain (told color warnings)) := by
  induction warnings generalizing s with
  | nil => simp [pure_run, complain, told]
  | cons w warnings ih =>
    have first : (w :: warnings).forM (fun w => host.complain (Label.warning.line color w.message)) s =
        warnings.forM (fun w => host.complain (Label.warning.line color w.message))
          (s.complain (Label.warning.line color w.message)) := rfl
    rw [first, ih]
    simp [complain, told, String.append_assoc]

theorem perform_eq (s : Session) (color : Bool) (a : Arguments) :
    host.perform color a s =
      match s.answer a with
      | .error failure => (.error failure, s)
      | .ok answer => host.deliver a.out answer.text (s.complain (told color answer.warnings)) := by
  unfold Host.perform answer
  rw [bind_run, obtain_eq]
  cases s.text a.source? with
  | error failure => rfl
  | ok text =>
    dsimp only
    cases a.answer text with
    | error failure => rfl
    | ok answer =>
      dsimp only [Except.mapError]
      rw [bind_run, warn_eq]

/-! ## Directories -/

/-- Nothing has changed but the files, and they only by new directories to which some of the
    names lead. -/
structure Adds (names : List String) (s after : Session) : Prop where
  grown : FileTree.Grown names s.files after.files
  same : after = { s with files := after.files }

namespace Adds

variable {names more : List String} {after last : Session}

theorem refl (s : Session) : Adds names s s := ⟨.refl _, rfl⟩

theorem mono (h : Adds names s after) (sub : names ⊆ more) : Adds more s after := ⟨h.grown.mono sub, h.same⟩

theorem trans (h : Adds names s after) (h' : Adds names after last) : Adds names s last := by
  refine ⟨h.grown.trans h'.grown, ?_⟩
  rw [h'.same, h.same]

end Adds

theorem ensureDirectory_adds (s : Session) (name : String) : Adds [name] s (host.ensureDirectory name s).2 := by
  unfold Host.ensureDirectory
  rw [bind_run]
  dsimp only [host, change]
  cases made : s.files.makeDirectory name with
  | ok files => exact ⟨FileTree.makeDirectory_grown made, rfl⟩
  | error fault =>
    dsimp only
    rw [bind_run]
    dsimp only
    split <;> exact .refl s

/-- However far it comes, making directories only adds some that are asked for. -/
theorem ensureDirectories_adds (s : Session) (names : List String) : Adds names s (host.ensureDirectories names s).2 := by
  induction names generalizing s with
  | nil => exact .refl s
  | cons name above ih =>
    have first : Adds (name :: above) s (host.ensureDirectory name s).2 :=
      (ensureDirectory_adds s name).mono (by simp)
    rw [Host.ensureDirectories, bind_run]
    cases (host.ensureDirectory name s).1 with
    | ok => exact first
    | error fault =>
      cases fault with
      | missing =>
        -- the directories above come first, and then this one once more
        have second : Adds (name :: above) s (host.ensureDirectories above (host.ensureDirectory name s).2).2 :=
          first.trans ((ih _).mono (List.subset_cons_self ..))
        dsimp only
        rw [bind_run]
        cases (host.ensureDirectories above (host.ensureDirectory name s).2).1 with
        | ok => exact second.trans ((ensureDirectory_adds _ name).mono (by simp))
        | error fault => exact second
      | _ => exact first

def above (path : String) : List String := (Pathname.ofText path).parents.map Pathname.text

theorem prepare_adds (s : Session) (path : String) : Adds (above path) s (host.prepare path s).2 := by
  unfold Host.prepare above
  cases (Pathname.ofText path).parents.map Pathname.text with
  | nil => exact .refl s
  | cons parent others =>
    dsimp only
    rw [bind_run]
    have adds := ensureDirectories_adds s (parent :: others)
    cases (host.ensureDirectories (parent :: others) s).1 with
    | ok => exact adds
    | error fault => exact adds

/-! ## Deliveries -/

theorem deliver_none (s : Session) (text : String) :
    host.deliver none text s = (.ok (), { s with output := s.output ++ text }) := rfl

theorem writeFile_run (s : Session) (name : String) (content : ByteArray) :
    host.writeFile name content s = s.change (s.files.write name content) := rfl

/-- A delivery into a file fails after some directories above the file were made, or writes
    the file after that. -/
theorem deliver_some (s : Session) (path text : String) :
    (∃ failure after, host.deliver (some path) text s = (.error failure, after) ∧ Adds (above path) s after) ∨
      ∃ between files, Adds (above path) s between ∧ between.files.write path text.toUTF8 = .ok files ∧
        host.deliver (some path) text s = (.ok (), { between with files }) := by
  have adds := prepare_adds s path
  unfold Host.deliver
  dsimp only
  rw [bind_run]
  cases (host.prepare path s).1 with
  | error failure => exact .inl ⟨failure, _, rfl, adds⟩
  | ok =>
    dsimp only
    rw [bind_run, writeFile_run]
    cases written : (host.prepare path s).2.files.write path text.toUTF8 with
    | error fault => exact .inl ⟨_, _, rfl, adds⟩
    | ok files => exact .inr ⟨_, files, adds, written, rfl⟩

/-- A delivery tells nothing, be it in vain or not. -/
theorem deliver_complaints (s : Session) (out : Option String) (text : String) :
    (host.deliver out text s).2.complaints = s.complaints := by
  cases out with
  | none => rfl
  | some path =>
    rcases deliver_some s path text with ⟨failure, after, failed, adds⟩ | ⟨between, files, adds, -, done⟩
    · rw [failed]
      show after.complaints = s.complaints
      rw [adds.same]
    · rw [done]
      show between.complaints = s.complaints
      rw [adds.same]

/-! ## Runs -/

theorem run_eq (s : Session) (color : Bool) {words : List String} {a : Arguments} (h : Arguments.ofWords words = .ok a) :
    s.run color words =
      match host.perform color a s with
      | (.ok (), after) => (0, after)
      | (.error failure, after) => (1, after.complain (Label.error.line color failure.message)) := by
  unfold run Host.run
  rw [h]
  dsimp only
  rw [bind_run]
  cases host.perform color a s with
  | mk result after => cases result <;> rfl

/-- A run that finds an answer tells the warnings, and behind them, if the delivery failed, why
    it did. -/
theorem run_complaints (s : Session) (color : Bool) {words : List String} {a : Arguments} {answer : Answer}
    (h : Arguments.ofWords words = .ok a) (answered : s.answer a = .ok answer) :
    ∃ status after, s.run color words = (status, after) ∧
      ((status = 0 ∧ after.complaints = s.complaints ++ told color answer.warnings) ∨
        ∃ failure : RunFailure, status = 1 ∧
          after.complaints = s.complaints ++ told color answer.warnings ++ Label.error.line color failure.message) := by
  rw [run_eq s color h, perform_eq, answered]
  dsimp only
  have same : (host.deliver a.out answer.text (s.complain (told color answer.warnings))).2.complaints =
      s.complaints ++ told color answer.warnings := deliver_complaints ..
  cases delivered : host.deliver a.out answer.text (s.complain (told color answer.warnings)) with
  | mk result after =>
    rw [delivered] at same
    cases result with
    | ok => exact ⟨0, after, rfl, .inl ⟨rfl, same⟩⟩
    | error failure =>
      exact ⟨1, _, rfl, .inr ⟨failure, rfl, congrArg (· ++ Label.error.line color failure.message) same⟩⟩

/-- A run on words that make a request ends with status 0 or 1. If it fails, nothing was
    printed and every file is as before; if no answer was found, nothing was done but to
    tell so. An answer that is to be printed always is. If the run does not fail, the answer
    was printed and no file touched, or it is in the one file that was asked for, and all
    that is new besides are directories above it. -/
theorem run_outcome (files : FileTree) (input : ByteArray) (color : Bool) {words : List String} {a : Arguments}
    (h : Arguments.ofWords words = .ok a) :
    ∃ status after, (start files input).run color words = (status, after) ∧ (status = 0 ∨ status = 1) ∧
      (status = 1 → after.output = "" ∧
        ∀ p content, after.files.entry? p = some (.file content) ↔ files.entry? p = some (.file content)) ∧
      (∀ failure, (start files input).answer a = .error failure →
        status = 1 ∧ after = (start files input).complain (Label.error.line color failure.message)) ∧
      (∀ answer, (start files input).answer a = .ok answer → a.out = none → status = 0) ∧
      (status = 0 → ∃ answer, (start files input).answer a = .ok answer ∧
        (a.out = none → after.output = answer.text ∧ after.files = files) ∧
        ∀ path, a.out = some path →
          after.output = "" ∧ FileTree.Delivered (above path) path answer.text.toUTF8 files after.files) := by
  rw [run_eq _ color h, perform_eq]
  cases (start files input).answer a with
  | error failure =>
    refine ⟨1, _, rfl, .inr rfl, fun _ => ⟨rfl, fun _ _ => .rfl⟩, ?_, nofun, nofun⟩
    rintro _ ⟨⟩
    exact ⟨rfl, rfl⟩
  | ok answer =>
    dsimp only
    generalize warned : (start files input).complain _ = s
    have same : s.files = files := by rw [← warned]; rfl
    have silent : s.output = "" := by rw [← warned]; rfl
    cases out : a.out with
    | none =>
      rw [deliver_none]
      refine ⟨0, _, rfl, .inl rfl, nofun, nofun, fun _ _ _ => rfl, fun _ => ⟨answer, rfl, fun _ => ⟨?_, same⟩, nofun⟩⟩
      show s.output ++ answer.text = answer.text
      rw [silent, String.empty_append]
    | some path =>
      rcases deliver_some s path answer.text with ⟨failure, after, failed, adds⟩ | ⟨between, written, adds, write, done⟩
      · rw [failed]
        refine ⟨1, _, rfl, .inr rfl, fun _ => ⟨?_, fun p content => ?_⟩, nofun, nofun, nofun⟩
        · show after.output = ""
          rw [adds.same]
          exact silent
        · exact same ▸ adds.grown.file_iff
      · rw [done]
        refine ⟨0, _, rfl, .inl rfl, nofun, nofun, nofun, fun _ => ⟨answer, rfl, nofun, ?_⟩⟩
        rintro _ ⟨⟩
        refine ⟨?_, ?_⟩
        · show between.output = ""
          rw [adds.same]
          exact silent
        · exact same ▸ adds.grown.delivered write

def boxes : Json.Value := .object [("a b", .number "1")]

def boxesSource : String :=
  "struct JsonDecodable: Decodable \x7b\n    let aB: Int\n\n    enum CodingKeys: String, CodingKey \x7b\n        " ++
    "case aB = \"a b\"\n    \x7d\n\x7d\n"

/-- A tree with a document in it, a request that writes below its directory, and one that
    reads another document. -/
def shelf : FileTree := ⟨[], [(["gen"], .directory), (["boxes.json"], .file boxes.compact.toUTF8)]⟩

def boxing : Arguments := ⟨some "boxes.json", some "gen/swift/./all/Boxes.swift", none, none, false⟩

def absent : Arguments := ⟨some "sample.json", some "gen/Sample.swift", none, none, true⟩

theorem boxing_answered : (start shelf ⟨#[]⟩).answer boxing = .ok ⟨boxesSource, []⟩ := by
  have read : Json.Value.ofText? boxes.compact = .ok boxes :=
    (Json.ofText?_compact_iff (by decide) (by decide)).mpr (by rfl)
  have converted : Conversion.ofDocument .standard boxes = .ok ⟨boxesSource, []⟩ := by decide +kernel
  have text : (start shelf ⟨#[]⟩).text boxing.source? = .ok boxes.compact := by
    show (decodeText boxes.compact.toUTF8).mapError (RunFailure.unread boxing.source?) = _
    rw [decodeText_toUTF8]
    rfl
  exact answer_ok_iff.mpr ⟨_, text, Arguments.answer_of_read (by rfl) read converted⟩

theorem shelf_outcomes :
    (Arguments.ofWords ["-o", "gen/swift/./all/Boxes.swift", "boxes.json"] = .ok boxing ∧
      ∃ after, (start shelf ⟨#[]⟩).run false ["-o", "gen/swift/./all/Boxes.swift", "boxes.json"] = (0, after) ∧
        after.output = "" ∧ after.files.read "gen/swift/./all/Boxes.swift" = .ok boxesSource.toUTF8 ∧
        after.files.entries.map (·.1) =
          [["Boxes.swift", "all", "swift", "gen"], ["all", "swift", "gen"], ["swift", "gen"], ["gen"], ["boxes.json"]]) ∧
    (Arguments.ofWords ["--json", "-o", "gen/Sample.swift", "sample.json"] = .ok absent ∧
      (start shelf ⟨#[]⟩).answer absent = .error (.unread (some "sample.json") .missing) ∧
      ∃ after, (start shelf ⟨#[]⟩).run false ["--json", "-o", "gen/Sample.swift", "sample.json"] = (1, after) ∧
        after.output = "" ∧ after.files = shelf ∧
        after.complaints = "error: failed to read sample.json: No such file or directory (os error 2)\n") := by
  refine ⟨?_, ?_⟩
  · have words : Arguments.ofWords ["-o", "gen/swift/./all/Boxes.swift", "boxes.json"] = .ok boxing := by rfl
    obtain ⟨status, after, run, -, -, -, -, delivered⟩ := run_outcome shelf ⟨#[]⟩ false words
    have ended := run
    rw [run_eq _ false words, perform_eq, boxing_answered] at ended
    have done : status = 0 := (congrArg Prod.fst ended).symm
    obtain ⟨answer, answered, -, written⟩ := delivered done
    obtain rfl : answer = ⟨boxesSource, []⟩ := Except.ok.inj (answered.symm.trans boxing_answered)
    obtain ⟨silent, delivered⟩ := written _ rfl
    refine ⟨words, after, done ▸ run, silent, ?_, ?_⟩
    · exact delivered.read
    · exact (congrArg (·.2.files.entries.map (·.1)) ended).symm
  · have words : Arguments.ofWords ["--json", "-o", "gen/Sample.swift", "sample.json"] = .ok absent := by rfl
    have unread : (start shelf ⟨#[]⟩).answer absent = .error (.unread (some "sample.json") .missing) := by rfl
    obtain ⟨status, after, run, -, -, failed, -, -⟩ := run_outcome shelf ⟨#[]⟩ false words
    obtain ⟨rfl, rfl⟩ := failed _ unread
    exact ⟨words, unread, _, run, rfl, rfl, by rfl⟩

end Decodables.Command.Session
