import BeanAtlas.Command.Run
import BeanAtlas.Proofs.Registry.Cardinality

/-!
The verdict on a resolution as two commands tell it. The listing of injections follows the status. The command that
resolves one type does so with its exit code and with the bean that it names; but whatever has candidates and no
chosen bean it calls ambiguous, so also a collection.
-/
namespace BeanAtlas

namespace Text

/-- A text that is read back as one line when a line feed is put behind it. -/
structure IsLine (line : List Char) : Prop where
  whole : '\n' ∉ line
  ends : line.getLast? ≠ some '\r'

variable {line : List Char}

theorem closedLine_reverse (ends : line.getLast? ≠ some '\r') : closedLine line.reverse = line := by
  rw [← List.head?_reverse] at ends
  unfold closedLine
  split
  · next equal => simp [equal] at ends
  · exact List.reverse_reverse line

theorem linesFrom_append (whole : '\n' ∉ line) (current rest : List Char) :
    linesFrom current (line ++ '\n' :: rest) = closedLine (line.reverse ++ current) :: linesFrom [] rest := by
  induction line generalizing current with
  | nil => simp [linesFrom]
  | cons c line ih =>
    obtain ⟨apart, whole⟩ : '\n' ≠ c ∧ '\n' ∉ line := by simpa using whole
    simp [linesFrom, Ne.symm apart, ih whole]

/-- A start without the mark is found before the mark. -/
theorem prefix_of_mark {start front rest : List Char} {mark : Char} (absent : mark ∉ start)
    (found : start <+: front ++ mark :: rest) : start <+: front := by
  by_cases short : start.length ≤ front.length
  · exact List.prefix_of_prefix_length_le found (List.prefix_append ..) short
  · have reaches : front ++ [mark] <+: start := by
      refine List.prefix_of_prefix_length_le ⟨rest, by simp⟩ found ?_
      simp only [List.length_append, List.length_singleton]
      omega
    exact absurd (reaches.mem (by simp)) absent

theorem length_le_intercalate {separator word : List Char} {words : List (List Char)} (member : word ∈ words) :
    word.length ≤ (separator.intercalate words).length := by
  induction words with
  | nil => exact absurd member List.not_mem_nil
  | cons first later ih =>
    cases later with
    | nil =>
      obtain rfl := List.mem_singleton.mp member
      simp
    | cons second later =>
      rw [List.intercalate_cons_cons, List.length_append, List.length_append]
      rcases List.mem_cons.mp member with rfl | member
      · omega
      · have bound := ih member
        omega

end Text

theorem not_mem_toDigits {c : Char} (other : c.isDigit = false) (n : Nat) : c ∉ Nat.toDigits 10 n := by
  intro member
  simp [Nat.isDigit_of_mem_toDigits (by decide) (by decide) member] at other

namespace Command

open Text (IsLine)

/-- One of the lines starts with `Ambiguous:`. -/
def callsAmbiguous (output : String) : Bool :=
  (Text.lines output).any ("Ambiguous:".toList.isPrefixOf ·.toList)

theorem lines_unlines {told : List String} (each : ∀ line ∈ told, IsLine line.toList) :
    Text.lines (unlines told) = told := by
  have split : Text.linesFrom [] (told.flatMap (·.toList ++ ['\n'])) = told.map String.toList := by
    induction told with
    | nil => rfl
    | cons line told ih =>
      obtain ⟨line', each⟩ := List.forall_mem_cons.mp each
      rw [List.flatMap_cons, List.append_assoc, List.singleton_append, Text.linesFrom_append line'.whole,
        List.append_nil, Text.closedLine_reverse line'.ends, ih each, List.map_cons]
  have joined : (unlines told).toList = told.flatMap (·.toList ++ ['\n']) := by
    simp [unlines, String.toList_join, List.flatMap_map]
  rw [Text.lines, joined, split]
  simp

variable {root : FilePath} {bean : Bean}

/-- What is shown of the bean stands on one line and is not taken for a verdict. -/
structure IsPlainlyShown (root : FilePath) (bean : Bean) : Prop where
  name : '\n' ∉ bean.name.toList
  file : '\n' ∉ (bean.file.shownFrom root).toList
  start : ¬ "Ambiguous:".toList <+: bean.name.toList

/-- The line of the chosen bean. -/
def heading (root : FilePath) (bean : Bean) : String := bean.name ++ " " ++ place root bean.file bean.position

/-- The line of a candidate. -/
def candidateLine (root : FilePath) (bean : Bean) : String :=
  "  " ++ column bean.name ++ " " ++ place root bean.file bean.position

/-- The line above the candidates when none is chosen. -/
def ambiguousLine (count : Nat) : String := "Ambiguous: " ++ toString count ++ " candidates"

/-- What ends in a place is a line as long as nothing before the place breaks it. -/
theorem isLine_place {front : String} (whole : '\n' ∉ front.toList) (file : '\n' ∉ (bean.file.shownFrom root).toList)
    (position : Position) : IsLine (front ++ place root bean.file position).toList where
  whole := by
    have digits : ∀ n, '\n' ∉ Nat.toDigits 10 n := not_mem_toDigits (by decide)
    simp [place, Position.text, whole, file, digits]
  ends := by
    intro last
    have digits : (toString position.column.toNat).toList = Nat.toDigits 10 position.column.toNat := Nat.toList_repr
    have filled : Nat.toDigits 10 position.column.toNat ≠ [] := by simp
    simp only [place, Position.text, String.toList_append, ← List.append_assoc, digits] at last
    rw [List.getLast?_append_of_ne_nil _ filled] at last
    exact not_mem_toDigits (by decide) _ (List.mem_of_mem_getLast? last)

theorem isLine_heading (plain : IsPlainlyShown root bean) : IsLine (heading root bean).toList :=
  isLine_place (by simp [plain.name]) plain.file bean.position

theorem isLine_candidateLine (plain : IsPlainlyShown root bean) : IsLine (candidateLine root bean).toList :=
  isLine_place (by simp [column, plain.name]) plain.file bean.position

theorem isLine_ambiguousLine (count : Nat) : IsLine (ambiguousLine count).toList where
  whole := by
    have digits : '\n' ∉ Nat.toDigits 10 count := not_mem_toDigits (by decide) count
    simp [ambiguousLine, digits]
  ends := by
    rw [ambiguousLine, String.toList_append, List.getLast?_append_of_ne_nil _ (by decide)]
    decide

theorem ambiguous_ambiguousLine (count : Nat) : "Ambiguous:".toList <+: (ambiguousLine count).toList :=
  ⟨(" " ++ toString count ++ " candidates").toList, by simp [ambiguousLine]⟩

theorem not_ambiguous_heading (plain : IsPlainlyShown root bean) :
    ¬ "Ambiguous:".toList <+: (heading root bean).toList := by
  intro found
  have split : (heading root bean).toList = bean.name.toList ++ ' ' :: (place root bean.file bean.position).toList := by
    simp [heading]
  rw [split] at found
  exact plain.start (Text.prefix_of_mark (by decide) found)

theorem not_ambiguous_candidateLine (root : FilePath) (bean : Bean) :
    ¬ "Ambiguous:".toList <+: (candidateLine root bean).toList := by
  simp [candidateLine, List.cons_prefix_cons]

section Resolve

variable {resolution : Resolution} {hint : Option String} {format : Format}

theorem resolutionLines_eq (root : FilePath) (resolution : Resolution) (all : Bool) :
    resolutionLines root resolution all =
      match resolution.resolved with
      | some bean => heading root bean :: if all then resolution.candidates.map (candidateLine root) else []
      | none => ambiguousLine resolution.candidates.length :: resolution.candidates.map (candidateLine root) := rfl

theorem resolutionOutcome_of_none (none : resolution.candidates = []) (written : format ≠ .json) (root : FilePath)
    (type : String) (name : Option String) :
    resolutionOutcome root type name resolution format false =
      { exit := notFound, errors := unlines ["No bean matches: " ++ type] } := by
  cases format with
  | json => exact absurd rfl written
  | pretty => simp [resolutionOutcome, none, lines, unlines]
  | text => simp [resolutionOutcome, none, lines, unlines]

theorem resolutionOutcome_of_found (found : resolution.candidates ≠ []) (written : format ≠ .json) (root : FilePath)
    (type : String) (name : Option String) :
    resolutionOutcome root type name resolution format false =
      { output := unlines (resolutionLines root resolution (format = .pretty)) } := by
  obtain ⟨first, rest, candidates⟩ := List.exists_cons_of_ne_nil found
  cases format with
  | json => exact absurd rfl written
  | pretty => simp [resolutionOutcome, candidates, lines, unlines]
  | text => simp [resolutionOutcome, candidates, lines, unlines]

theorem run_resolve {surroundings : Surroundings} {path : FilePath} {workspace : Workspace}
    (loaded : surroundings.workspace path = .ok (root, workspace)) (type : String) (name : Option String)
    (quiet : Bool) :
    Invocation.run ⟨.resolve path type name, format, quiet⟩ surroundings =
      resolutionOutcome root type name (workspace.registry.resolve type name) format quiet := by
  have done : resolve surroundings path type name format quiet =
      .ok (resolutionOutcome root type name (workspace.registry.resolve type name) format quiet) := by
    rw [resolve, loaded]
    rfl
  simp only [Invocation.run, done]

theorem exit_resolutionOutcome_iff (shape : resolution.Shape hint) (written : format ≠ .json) (root : FilePath)
    (type : String) (name : Option String) :
    (resolutionOutcome root type name resolution format false).exit = notFound ↔ resolution.status = .unresolved := by
  rw [shape.unresolved_iff]
  by_cases none : resolution.candidates = []
  · simp [resolutionOutcome_of_none none written, none]
  · simp [resolutionOutcome_of_found none written, none, notFound]

theorem heading_told (shape : resolution.Shape hint) (resolved : resolution.resolved = some bean)
    (written : format ≠ .json) (root : FilePath) (type : String) (name : Option String) :
    (heading root bean ++ "\n").toList <+:
      (resolutionOutcome root type name resolution format false).output.toList := by
  have found : resolution.candidates ≠ [] := List.ne_nil_of_mem (shape.mem_candidates resolved)
  rw [resolutionOutcome_of_found found written, resolutionLines_eq, resolved]
  simp [unlines, String.toList_join]

section Lines

variable (shape : resolution.Shape hint) (plain : ∀ bean ∈ resolution.candidates, IsPlainlyShown root bean)
include shape plain

theorem isLine_resolutionLines (all : Bool) : ∀ line ∈ resolutionLines root resolution all, IsLine line.toList := by
  have listed : ∀ line ∈ resolution.candidates.map (candidateLine root), IsLine line.toList :=
    List.forall_mem_map.mpr fun bean candidate => isLine_candidateLine (plain bean candidate)
  rw [resolutionLines_eq]
  cases resolved : resolution.resolved with
  | none => exact List.forall_mem_cons.mpr ⟨isLine_ambiguousLine _, listed⟩
  | some bean =>
    refine List.forall_mem_cons.mpr ⟨isLine_heading (plain bean (shape.mem_candidates resolved)), ?_⟩
    cases all with
    | false => exact List.forall_mem_nil _
    | true => exact listed

theorem lines_resolutionOutcome (found : resolution.candidates ≠ []) (written : format ≠ .json) (type : String)
    (name : Option String) :
    Text.lines (resolutionOutcome root type name resolution format false).output =
      resolutionLines root resolution (format = .pretty) := by
  rw [resolutionOutcome_of_found found written]
  exact lines_unlines (isLine_resolutionLines shape plain _)

/-- Whatever has candidates and no chosen bean is called ambiguous. -/
theorem ambiguous_resolutionLines_iff (all : Bool) :
    (∃ line ∈ resolutionLines root resolution all, "Ambiguous:".toList <+: line.toList) ↔
      resolution.resolved = none := by
  have listed : ∀ line ∈ resolution.candidates.map (candidateLine root), ¬ "Ambiguous:".toList <+: line.toList :=
    List.forall_mem_map.mpr fun bean _ => not_ambiguous_candidateLine root bean
  rw [resolutionLines_eq]
  cases resolved : resolution.resolved with
  | none => exact iff_of_true ⟨_, List.mem_cons_self, ambiguous_ambiguousLine _⟩ rfl
  | some bean =>
    refine iff_of_false ?_ (by simp)
    rintro ⟨line, member, starts⟩
    rcases List.mem_cons.mp member with rfl | member
    · exact not_ambiguous_heading (plain bean (shape.mem_candidates resolved)) starts
    · cases all with
      | false => exact List.not_mem_nil member
      | true => exact listed line member starts

theorem callsAmbiguous_iff (written : format ≠ .json) (type : String) (name : Option String) :
    callsAmbiguous (resolutionOutcome root type name resolution format false).output ↔
      resolution.status = .ambiguous ∨ resolution.status = .collection := by
  rw [← shape.unchosen_iff]
  by_cases none : resolution.candidates = []
  · have silent : callsAmbiguous "" = false := by decide
    simp [resolutionOutcome_of_none none written, none, silent]
  · rw [callsAmbiguous, lines_resolutionOutcome shape plain none written, List.any_eq_true, and_iff_left none]
    simpa only [List.isPrefixOf_iff_prefix] using ambiguous_resolutionLines_iff shape plain (format = .pretty)

/-- The first line is the one of a candidate exactly when a bean is chosen. -/
theorem heading_first_iff (written : format ≠ .json) (type : String) (name : Option String) :
    (∃ bean ∈ resolution.candidates,
      (Text.lines (resolutionOutcome root type name resolution format false).output).head? =
        some (heading root bean)) ↔ resolution.status = .resolved := by
  rw [Resolution.status_eq_resolved_iff]
  constructor
  · rintro ⟨bean, candidate, first⟩
    rw [lines_resolutionOutcome shape plain (List.ne_nil_of_mem candidate) written, resolutionLines_eq] at first
    cases resolved : resolution.resolved with
    | some chosen => rfl
    | none =>
      have same : ambiguousLine resolution.candidates.length = heading root bean := by simpa [resolved] using first
      exact absurd (same ▸ ambiguous_ambiguousLine _) (not_ambiguous_heading (plain bean candidate))
  · intro settled
    obtain ⟨bean, resolved⟩ := Option.isSome_iff_exists.mp settled
    have candidate := shape.mem_candidates resolved
    refine ⟨bean, candidate, ?_⟩
    rw [lines_resolutionOutcome shape plain (List.ne_nil_of_mem candidate) written, resolutionLines_eq, resolved]
    rfl

end Lines

end Resolve

section Listing

variable {resolution : Resolution} {hint : Option String} {injection : Injection}

/-- No candidate is named like a listing of the candidates. -/
theorem name_ne_listing {candidates : List Bean} (member : bean ∈ candidates) (opening : String) :
    bean.name ≠ opening ++ namesOf candidates ++ ")" := by
  intro equal
  have bound : bean.name.toList.length ≤ (namesOf candidates).toList.length := by
    rw [namesOf, String.toList_intercalate, List.map_map]
    exact Text.length_le_intercalate (List.mem_map_of_mem member)
  have longer := congrArg (·.toList.length) equal
  have closing : ")".toList.length = 1 := by decide
  simp only [String.toList_append, List.length_append] at longer
  omega

theorem describe_of_resolved (resolved : injection.resolved = some bean) :
    describe injection .resolved = bean.name := by
  simp [describe, resolved]

/-- Only a collection is told as a collection, and only what is ambiguous as ambiguous. -/
theorem describe_listing_iff (shape : resolution.Shape hint) (resolved : injection.resolved = resolution.resolved)
    (candidates : injection.candidates = some resolution.candidates) {verdict : ResolutionStatus} {opening : String}
    (opens : verdict = .collection ∧ opening = "collection (" ∨ verdict = .ambiguous ∧ opening = "ambiguous (") :
    describe injection resolution.status = opening ++ namesOf resolution.candidates ++ ")" ↔
      resolution.status = verdict := by
  cases status : resolution.status with
  | resolved =>
    obtain ⟨bean, chosen⟩ := Option.isSome_iff_exists.mp (Resolution.status_eq_resolved_iff.mp status)
    rw [describe_of_resolved (resolved.trans chosen)]
    refine iff_of_false (name_ne_listing (shape.mem_candidates chosen) opening) ?_
    rcases opens with ⟨rfl, -⟩ | ⟨rfl, -⟩ <;> simp
  | collection => rcases opens with ⟨rfl, rfl⟩ | ⟨rfl, rfl⟩ <;> simp [describe, candidates, ← String.toList_inj]
  | ambiguous => rcases opens with ⟨rfl, rfl⟩ | ⟨rfl, rfl⟩ <;> simp [describe, candidates, ← String.toList_inj]
  | unresolved => rcases opens with ⟨rfl, rfl⟩ | ⟨rfl, rfl⟩ <;> simp [describe, ← String.toList_inj]

end Listing

/-- Without JSON and without a wish for quiet, the command that resolves a type exits with the code for no match
exactly when the resolution is unresolved, and its output starts with the chosen bean when there is one. As long as
names and paths make up no line of their own, its first line is the one of a candidate only then, and it calls
exactly the ambiguous resolutions and the collections ambiguous. The listing of injections tells an injection of the
same type and hint by its status: of the two it calls only the ambiguous ones ambiguous. -/
theorem verdicts_agree_unless_collection {surroundings : Surroundings} {path root : FilePath} {workspace : Workspace}
    (loaded : surroundings.workspace path = .ok (root, workspace)) (type : String) (name : Option String)
    {format : Format} (written : format ≠ .json) :
    let resolution := workspace.registry.resolve type name
    let outcome := Invocation.run ⟨.resolve path type name, format, false⟩ surroundings
    (outcome.exit = notFound ↔ resolution.status = .unresolved) ∧
    (∀ bean, resolution.resolved = some bean → (heading root bean ++ "\n").toList <+: outcome.output.toList) ∧
    ((∀ bean ∈ resolution.candidates, IsPlainlyShown root bean) →
      ((∃ bean ∈ resolution.candidates, (Text.lines outcome.output).head? = some (heading root bean)) ↔
        resolution.status = .resolved) ∧
      (callsAmbiguous outcome.output ↔ resolution.status = .ambiguous ∨ resolution.status = .collection)) ∧
    ∀ injection : Injection, injection.targetType = type → name = some injection.nameHint →
      let told := describe (workspace.resolveInjection injection) (workspace.status injection)
      (∀ bean, resolution.resolved = some bean → told = bean.name) ∧
      (told = "collection (" ++ namesOf resolution.candidates ++ ")" ↔ resolution.status = .collection) ∧
      (told = "ambiguous (" ++ namesOf resolution.candidates ++ ")" ↔ resolution.status = .ambiguous) ∧
      (resolution.status = .unresolved → told = "unresolved") := by
  intro resolution outcome
  have shape : resolution.Shape (Registry.nameHint? name) := workspace.registry.resolve_shape type name
  have run : outcome = resolutionOutcome root type name resolution format false := run_resolve loaded type name false
  rw [run]
  refine ⟨exit_resolutionOutcome_iff shape written root type name, fun bean resolved => ?_, fun plain => ⟨?_, ?_⟩, ?_⟩
  · exact heading_told shape resolved written root type name
  · exact heading_first_iff shape plain written type name
  · exact callsAmbiguous_iff shape plain written type name
  · rintro injection rfl rfl told
    have resolved : (workspace.resolveInjection injection).resolved = resolution.resolved := rfl
    have candidates : (workspace.resolveInjection injection).candidates = some resolution.candidates := rfl
    have status : told = describe (workspace.resolveInjection injection) resolution.status := rfl
    rw [status]
    refine ⟨fun bean chosen => ?_, describe_listing_iff shape resolved candidates (.inl ⟨rfl, rfl⟩),
      describe_listing_iff shape resolved candidates (.inr ⟨rfl, rfl⟩), fun unresolved => ?_⟩
    · have settled : resolution.status = .resolved := by rw [Resolution.status_eq_resolved_iff, chosen]; rfl
      rw [settled, describe_of_resolved (resolved.trans chosen)]
    · simp [unresolved, describe]

instance : Decidable (IsPlainlyShown root bean) :=
  decidable_of_iff ('\n' ∉ bean.name.toList ∧ '\n' ∉ (bean.file.shownFrom root).toList ∧
    "Ambiguous:".toList.isPrefixOf bean.name.toList = false)
    ⟨fun ⟨name, file, start⟩ => ⟨name, file, by simpa [← List.isPrefixOf_iff_prefix] using start⟩,
      fun plain => ⟨plain.name, plain.file, by simpa [← List.isPrefixOf_iff_prefix] using plain.start⟩⟩

/-- A shop with two senders, and a field that takes all of them. -/
def shop : Surroundings where
  system := .dir [("shop", .dir [("Mail.java", .file { bytes := String.toUTF8 <|
    "@Configuration class Mail \x7b@Bean Sender smtp()\x7b\x7d @Bean Sender sms()\x7b\x7d " ++
      "@Autowired List<Sender> all;\x7d" })])]
  current := ["shop"]
  environment := []

theorem exists_workspace {surroundings : Surroundings} {path : FilePath} {holds : FilePath × Workspace → Bool}
    (checked : (surroundings.workspace path).toOption.any holds = true) :
    ∃ root workspace, surroundings.workspace path = .ok (root, workspace) ∧ holds (root, workspace) = true := by
  cases loaded : surroundings.workspace path with
  | error fault => simp [loaded, Except.toOption] at checked
  | ok found => exact ⟨found.1, found.2, rfl, by simpa [loaded, Except.toOption] using checked⟩

theorem shop_senders_ambiguous :
    ∃ root workspace, shop.workspace ⟨"."⟩ = .ok (root, workspace) ∧
      (workspace.registry.resolve "Sender" (some "all")).status = .ambiguous ∧
      callsAmbiguous (Invocation.run ⟨.resolve ⟨"."⟩ "Sender" (some "all"), .text, false⟩ shop).output := by
  have checked : (shop.workspace ⟨"."⟩).toOption.any (fun found =>
      let resolution := found.2.registry.resolve "Sender" (some "all")
      resolution.status = .ambiguous ∧ ∀ bean ∈ resolution.candidates, IsPlainlyShown found.1 bean) = true := by
    decide +kernel
  obtain ⟨root, workspace, loaded, facts⟩ := exists_workspace checked
  obtain ⟨ambiguous, plain⟩ := of_decide_eq_true facts
  have written : Format.text ≠ .json := by decide
  obtain ⟨-, -, verdict, -⟩ := verdicts_agree_unless_collection loaded "Sender" (some "all") written
  exact ⟨root, workspace, loaded, ambiguous, (verdict plain).2.mpr (.inl ambiguous)⟩

/-- The listing of injections tells all senders as a collection, and the command that resolves their type calls them
ambiguous. -/
theorem collection_called_ambiguous :
    (run ["--format", "text", "injections"] shop).output =
      "Mail.java:1:95 field List<Sender> all -> collection (smtp, sms)\n" ∧
    callsAmbiguous (run ["--format", "text", "resolve", "List<Sender>", "--name", "all"] shop).output = true := by
  decide +kernel

end Command
end BeanAtlas
