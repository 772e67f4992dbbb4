import TemplateSwap.Proofs.Markup.Meaning
import TemplateSwap.Proofs.Markup.Parsing
import TemplateSwap.Proofs.Running.Inverse
import TemplateSwap.Proofs.Text.StrictUtf8
import TemplateSwap.Proofs.Tree.Finding

namespace TemplateSwap

open TemplateSwap.Text (Code Encoding codes)

namespace Configuration

open Markup (Node ScalarFault)

variable {path : String} {data : List UInt8} {text : List Char} {failure : Failure}

theorem all_unifyBreaks (cs : List Code) : (unifyBreaks cs).all isReadable = cs.all isReadable := by
  have hreadable : isReadable 13 = true ∧ isReadable 10 = true := ⟨rfl, rfl⟩
  fun_induction unifyBreaks cs with
  | case1 rest ih => simp [ih, hreadable]
  | case2 rest _ ih => simp [ih, hreadable]
  | case3 c rest _ _ ih => simp [ih]
  | case4 => rfl

/-- The bytes are UTF-8 for characters that a document can hold. Its text has one kind of line break. -/
def Reads (data : List UInt8) (text : List Char) : Prop :=
  ∃ s : String, Encoding.utf8.encode (codes s) = .ok data ∧ (∀ c ∈ codes s, isReadable c = true) ∧
    text = (unifyBreaks (codes s)).map Char.ofNat

theorem textOf_of_read {cs : List Code} (h : Text.StrictUtf8.read data = .ok cs) :
    textOf data = if (unifyBreaks cs).all isReadable then .ok ((unifyBreaks cs).map Char.ofNat)
      else .error .unreadableText := by
  unfold textOf
  rw [h]
  rfl

theorem textOf_ok : textOf data = .ok text ↔ Reads data text := by
  constructor
  · intro h
    obtain ⟨cs, hcs, -⟩ := Results.bind_ok.mp h
    have hcs := Results.mapError_ok.mp hcs
    rw [textOf_of_read hcs, all_unifyBreaks] at h
    split_ifs at h with hreadable
    obtain ⟨s, rfl, hdata⟩ := Text.StrictUtf8.read_ok.mp hcs
    exact ⟨s, hdata, List.all_eq_true.mp hreadable, (Except.ok.inj h).symm⟩
  · intro h
    obtain ⟨s, hdata, hreadable, rfl⟩ := h
    rw [textOf_of_read (Text.StrictUtf8.read_ok.mpr ⟨s, rfl, hdata⟩), all_unifyBreaks]
    exact if_pos (List.all_eq_true.mpr hreadable)

/-- What the document of a node says, or a file without any. -/
def said : Option Node → Except Markup.Fault Value
  | none => .ok .null
  | some node => node.value

/-- What is wrong with the bytes of a configuration that is not an error of the configuration. -/
inductive Escapes (data : List UInt8) : Failure → Prop
  | undecodable {error : DecodeError} (hno : ∀ s : String, Encoding.utf8.encode (codes s) ≠ .ok data)
      (herror : Text.StrictUtf8.read data = .error error) : Escapes data (.undecodable error)
  | unreadable {s : String} {c : Code} (hdata : Encoding.utf8.encode (codes s) = .ok data) (hc : c ∈ codes s)
      (hunreadable : isReadable c = false) : Escapes data .unreadableText
  | unscanned {text : List Char} {fault : ScalarFault} (htext : Reads data text)
      (hnode : Node.ofText text = .error (.scalar fault)) : Escapes data (.badScalar fault)
  | unsaid {text : List Char} {node : Node} {fault : ScalarFault} (htext : Reads data text)
      (hnode : Node.ofText text = .ok (some node)) (hvalue : node.value = .error (.scalar fault)) :
      Escapes data (.badScalar fault)
  | mixed {text : List Char} {node : Node} {fields : List (Value × Value)} (htext : Reads data text)
      (hnode : Node.ofText text = .ok (some node)) (hvalue : node.value = .ok (.map fields))
      (hmixed : Value.Mixed (Descriptor.unknownKeys .top fields)) : Escapes data .wrongType

/-- An error of the configuration in a file. -/
def Told (path : String) (failure : Failure) : Prop :=
  ∃ defect, failure = .config ⟨defect, some { source := path }⟩

/-- Reading a configuration up to its descriptors: these, still raw, and the lines that they begin on. -/
def stages (path : String) (data : List UInt8) : Except Failure (List Value × List Int) := do
  let text ← textOf data
  let node ← (Node.ofText text).mapError (ofFault path)
  let raw ← (said node).mapError (ofFault path)
  let found ← items path raw
  return (found, (node.map lines).getD [])

/-- After these stages, descriptors are validated. -/
theorem read_eq (path : String) (data : List UInt8) :
    read path data = stages path data >>= fun found => declare path found.1 found.2 := by
  unfold read stages
  simp only [bind_assoc, pure_bind]
  refine bind_congr fun text => bind_congr fun node => ?_
  cases node <;> rfl

theorem Escapes.stages_error (h : Escapes data failure) (path : String) : stages path data = .error failure := by
  unfold stages
  cases h with
  | undecodable _ herror =>
    have htext : textOf data = _ := Results.bind_error.mpr (.inl (Results.mapError_error.mpr ⟨_, herror, rfl⟩))
    exact Results.bind_error.mpr (.inl htext)
  | @unreadable s c hdata hc hunreadable =>
    have hall : ¬(codes s).all isReadable = true := by
      intro hall
      rw [List.all_eq_true.mp hall c hc] at hunreadable
      cases hunreadable
    have htext := textOf_of_read (Text.StrictUtf8.read_ok.mpr ⟨s, rfl, hdata⟩)
    rw [all_unifyBreaks, if_neg hall] at htext
    exact Results.bind_error.mpr (.inl htext)
  | unscanned htext hnode =>
    refine Results.bind_error.mpr (.inr ⟨_, textOf_ok.mpr htext, ?_⟩)
    exact Results.bind_error.mpr (.inl (Results.mapError_error.mpr ⟨_, hnode, rfl⟩))
  | unsaid htext hnode hvalue =>
    refine Results.bind_error.mpr (.inr ⟨_, textOf_ok.mpr htext, ?_⟩)
    refine Results.bind_error.mpr (.inr ⟨_, Results.mapError_ok.mpr hnode, ?_⟩)
    exact Results.bind_error.mpr (.inl (Results.mapError_error.mpr ⟨_, hvalue, rfl⟩))
  | mixed htext hnode hvalue hmixed =>
    refine Results.bind_error.mpr (.inr ⟨_, textOf_ok.mpr htext, ?_⟩)
    refine Results.bind_error.mpr (.inr ⟨_, Results.mapError_ok.mpr hnode, ?_⟩)
    refine Results.bind_error.mpr (.inr ⟨_, Results.mapError_ok.mpr hvalue, ?_⟩)
    refine Results.bind_error.mpr (.inl (Results.bind_error.mpr (.inl ?_)))
    exact Descriptor.checkKeys_error.mpr (.inr ⟨hmixed, rfl⟩)

theorem escapes_of_textOf (h : textOf data = .error failure) : Escapes data failure := by
  rcases hread : Text.StrictUtf8.read data with error | cs
  · rcases Results.bind_error.mp h with h | ⟨cs, hcs, -⟩
    · obtain ⟨cause, hcause, rfl⟩ := Results.mapError_error.mp h
      refine .undecodable (fun s hs => ?_) hcause
      rw [Text.StrictUtf8.read_ok.mpr ⟨s, rfl, hs⟩] at hread
      cases hread
    · rw [hread] at hcs
      cases hcs
  · obtain ⟨s, rfl, hdata⟩ := Text.StrictUtf8.read_ok.mp hread
    rw [textOf_of_read hread, all_unifyBreaks] at h
    split_ifs at h with hall
    obtain rfl := Except.error.inj h
    obtain ⟨c, hc, hunreadable⟩ := List.all_eq_false.mp (Bool.eq_false_iff.mpr hall)
    exact .unreadable hdata hc (Bool.eq_false_iff.mpr hunreadable)

theorem items_error {raw : Value} (h : items path raw = .error failure) :
    Told path failure ∨ ∃ fields, raw = .map fields ∧ Value.Mixed (Descriptor.unknownKeys .top fields) ∧
      failure = .wrongType := by
  unfold items at h
  split at h
  · next fields =>
    rcases Results.bind_error.mp h with h | ⟨-, -, h⟩
    · rcases Descriptor.checkKeys_error.mp h with ⟨keys, -, -, rfl⟩ | ⟨hmixed, rfl⟩
      · exact .inl ⟨_, rfl⟩
      · exact .inr ⟨fields, rfl, hmixed, rfl⟩
    · split at h
      · cases h
      · split_ifs at h
        · cases h
        · exact .inl ⟨_, (Except.error.inj h).symm⟩
  · exact .inl ⟨_, (Except.error.inj h).symm⟩

/-- What fails before descriptors are validated is told as an error of the configuration or escapes. -/
theorem told_or_escapes (h : stages path data = .error failure) : Told path failure ∨ Escapes data failure := by
  unfold stages at h
  rcases Results.bind_error.mp h with h | ⟨text, htext, h⟩
  · exact .inr (escapes_of_textOf h)
  have htext := textOf_ok.mp htext
  rcases Results.bind_error.mp h with h | ⟨node, hnode, h⟩
  · obtain ⟨fault, hfault, rfl⟩ := Results.mapError_error.mp h
    cases fault with
    | malformed => exact .inl ⟨_, rfl⟩
    | scalar fault => exact .inr (.unscanned htext hfault)
  have hnode := Results.mapError_ok.mp hnode
  rcases Results.bind_error.mp h with h | ⟨raw, hraw, h⟩
  · obtain ⟨fault, hfault, rfl⟩ := Results.mapError_error.mp h
    cases node with
    | none => cases hfault
    | some node =>
      cases fault with
      | malformed => exact .inl ⟨_, rfl⟩
      | scalar fault => exact .inr (.unsaid htext hnode hfault)
  have hraw := Results.mapError_ok.mp hraw
  rcases Results.bind_error.mp h with h | ⟨found, -, h⟩
  · refine (items_error h).imp_right fun h => ?_
    obtain ⟨fields, rfl, hmixed, rfl⟩ := h
    cases node with
    | none => cases hraw
    | some node => exact .mixed htext hnode hraw hmixed
  · cases h

/-- A scalar fault was found when the text was split into tokens, or it is in a part of the document. -/
theorem Escapes.source {fault : ScalarFault} (h : Escapes data (.badScalar fault)) :
    ∃ text, Reads data text ∧ ((Markup.Token.scan text).2 = some (.scalar fault) ∨
      ∃ node part, Node.ofText text = .ok (some node) ∧ node.Part part ∧ part.Spoiled fault) := by
  cases h with
  | unscanned htext hnode => exact ⟨_, htext, .inl (Node.ofText_scalar hnode)⟩
  | unsaid htext hnode hvalue =>
    obtain ⟨part, hpart, hspoiled⟩ := Node.value_scalar hvalue
    exact ⟨_, htext, .inr ⟨_, part, hnode, hpart, hspoiled⟩⟩

theorem Told.isLoadFailure (h : Told path failure) : CommandLine.isLoadFailure failure = true := by
  obtain ⟨defect, rfl⟩ := h
  rfl

theorem Escapes.not_isLoadFailure (h : Escapes data failure) : CommandLine.isLoadFailure failure = false := by
  cases h <;> rfl

theorem escapes_iff (path : String) : Escapes data failure ↔
    stages path data = .error failure ∧ CommandLine.isLoadFailure failure = false := by
  constructor
  · exact fun h => ⟨h.stages_error path, h.not_isLoadFailure⟩
  · intro h
    obtain ⟨hstages, hreport⟩ := h
    refine (told_or_escapes hstages).resolve_left fun htold => ?_
    rw [htold.isLoadFailure] at hreport
    cases hreport

end Configuration

namespace CommandLine

namespace Request

theorem startsWith_dash_iff (text : String) : text.startsWith "-" = true ↔ text.toList.head? = some '-' := by
  have hdash : "-".toList = ['-'] := rfl
  rw [String.startsWith_string_iff, hdash]
  cases text.toList <;> simp [eq_comm]

theorem classify_operand {text : String} (h : text.toList.head? ≠ some '-') (topic : Topic) :
    classify topic text = .ok .operand := by
  have hdash : text.startsWith "-" = false := Bool.eq_false_iff.mpr (mt (startsWith_dash_iff text).mp h)
  unfold classify
  rw [hdash]
  rfl

/-- A file that is not named like a flag is the operand. -/
theorem ofArguments_check {config : String} (h : config.toList.head? ≠ some '-') :
    ofArguments ["check", config] = .run false (.check config) := by
  have hdashes : config ≠ "--" := by
    rintro rfl
    exact h rfl
  have hword : classify .program "check" = .ok .operand := classify_operand (by decide) .program
  have houter : read .program ["check", config] = .ok { operand := some ["check", config] } := by
    simp [read, classifyAll, hdashes, hword, classify_operand h]
    rfl
  have hinner : read .check [config] = .ok { operand := some [config] } := by
    simp [read, classifyAll, hdashes, classify_operand h]
    rfl
  have htopic : Topic.ofWord? "check" = some .check := rfl
  unfold ofArguments
  simp [houter, htopic, hinner, command, hasFlag, Request.config, hdashes]

end Request

/-- The configuration file that a command is about. -/
def Command.config : Command → String
  | .apply config _ _ _ => config
  | .check config => config
  | .reverse config => config

variable {tree : Tree} {config : String} {place : List String} {data : List UInt8} {failure : Failure}

/-- The report of a command whose configuration cannot be loaded. -/
def loadReport (failure : Failure) : Report :=
  if isLoadFailure failure then .failure [errorLine failure.message] else .escaped failure

theorem loadAll_error (h : Configuration.load tree config = .error failure) :
    loadAll tree config = .error (loadReport failure) := by
  have hbuild : Configuration.build {} tree config = .error failure := Results.bind_error.mpr (.inl h)
  unfold loadAll
  rw [hbuild]
  rfl

theorem apply_unloaded {stamp root : String} {env : Environment} {verbose back ignoreNoop : Bool} {report : Report}
    (h : loadAll tree config = .error report) :
    apply stamp env tree verbose config root back ignoreNoop = (report, tree) := by
  unfold apply
  rw [h]
  rfl

theorem check_unloaded {report : Report} (h : loadAll tree config = .error report) : check tree config = report := by
  unfold check
  rw [h]

theorem reverse_unloaded {report : Report} (h : loadAll tree config = .error report) :
    reverse tree config = report := by
  unfold reverse
  rw [h]
  rfl

theorem run_unloaded {stamp : String} {arguments : List String} {verbose : Bool} {command : Command} {env : Environment}
    (hrequest : Request.ofArguments arguments = .run verbose command)
    (h : Configuration.load tree command.config = .error failure) :
    run stamp env tree arguments = (loadReport failure, tree) := by
  have hload := loadAll_error h
  unfold run
  rw [hrequest]
  cases command with
  | apply config root back ignoreNoop => exact apply_unloaded hload
  | check config => exact congrArg (·, tree) (check_unloaded hload)
  | reverse config => exact congrArg (·, tree) (reverse_unloaded hload)

/-- Loading a configuration that can be read. Before its descriptors are validated, all that fails is told as an error
of the configuration, in one line, except for what escapes: bytes that are no UTF-8, characters that no document holds,
scalars that say no value of their type, and unknown keys that cannot be compared. Nothing else is printed then, and
the tree stays as it is. Integers have texts of any length in this, also those of more digits than
`Markup.Scalar.digitLimit`. -/
theorem load_fails (hfile : tree.readFile (Path.normal config) = .ok (place, data)) :
    Configuration.load tree config = (Configuration.stages (Path.normal config) data >>= fun found =>
      Configuration.declare (Path.normal config) found.1 found.2) ∧
    (∀ failure, Configuration.Escapes data failure ↔
      Configuration.stages (Path.normal config) data = .error failure ∧ isLoadFailure failure = false) ∧
    (∀ fault, Configuration.Escapes data (.badScalar fault) → ∃ text, Configuration.Reads data text ∧
      ((Markup.Token.scan text).2 = some (.scalar fault) ∨
        ∃ node part, Markup.Node.ofText text = .ok (some node) ∧ node.Part part ∧ part.Spoiled fault)) ∧
    ∀ failure, Configuration.stages (Path.normal config) data = .error failure →
      (isLoadFailure failure = true → Configuration.Told (Path.normal config) failure) ∧
      ∀ stamp env arguments verbose command,
        Request.ofArguments arguments = .run verbose command → command.config = config →
        run stamp env tree arguments =
          (if isLoadFailure failure then { errors := [errorLine failure.message], ending := .exit 1 }
            else { ending := .escaped failure }, tree) := by
  have hload := (Configuration.load_of_readFile hfile).trans (Configuration.read_eq (Path.normal config) data)
  refine ⟨hload, fun _ => Configuration.escapes_iff _, fun _ => Configuration.Escapes.source, ?_⟩
  intro failure hstages
  constructor
  · intro hreport
    refine (Configuration.told_or_escapes hstages).resolve_right fun hescapes => ?_
    rw [hescapes.not_isLoadFailure] at hreport
    cases hreport
  · intro stamp env arguments verbose command hrequest hconfig
    subst hconfig
    exact run_unloaded hrequest (hload.trans (Results.bind_error.mpr (.inl hstages)))

def bell : String := "transformations:\n  - before: \"a\x07\"\n    after: b\n"

theorem escapes_bell : Configuration.Escapes (contents bell) .unreadableText := by
  have hdata : Encoding.utf8.encode (codes bell) = .ok (contents bell) := rfl
  have hbell : 7 ∈ codes bell := by decide
  exact .unreadable hdata hbell rfl

/-- No line tells of it. -/
theorem load_fails_bell :
    Configuration.stages (Path.normal "a") (contents bell) = .error .unreadableText ∧
    run "" {} (.directory [("a", .file (contents bell))]) ["check", "a"] =
      ({ ending := .escaped .unreadableText }, .directory [("a", .file (contents bell))]) := by
  have hfile : Tree.readFile (.directory [("a", .file (contents bell))]) (Path.normal "a") =
      .ok (["a"], contents bell) := by
    rw [Path.normal_name (by decide)]
    exact Tree.readFile_name (by decide) rfl
  obtain ⟨-, hescapes, -, hfails⟩ := load_fails hfile
  obtain ⟨hstages, -⟩ := (hescapes .unreadableText).mp escapes_bell
  exact ⟨hstages, (hfails _ hstages).2 "" {} ["check", "a"] false (.check "a")
    (Request.ofArguments_check (by decide)) rfl⟩

/-- Not every failure of these stages is one that is reported. -/
theorem load_raises : ¬∀ path data failure, Configuration.stages path data = .error failure →
    isLoadFailure failure = true := by
  intro hreported
  have hbell := hreported "a" _ _ (escapes_bell.stages_error "a")
  cases hbell

end CommandLine

end TemplateSwap
