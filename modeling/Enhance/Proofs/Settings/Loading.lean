import Enhance.CommandLine.Stop
import Enhance.Proofs.Classpath.Damage
import Enhance.Proofs.Settings.Merging

/-!
# What becomes of a file of settings

The system hands over the bytes of a file of settings or does not (`Settings.Hands`).  Bytes that are handed
over describe settings (`Settings.Describes`), are wrong for settings (`Settings.Misdescribes`), or cannot be
made anything of, since they are no text or hold a word that does not stand for what it is said to stand for
(`Settings.Defies`).  Each of the four has its own way to end (`Stop.code?`).
-/

namespace Enhance

open Program

variable {world : World} {path : Path} {bytes : List UInt8} {settings : Settings}

namespace Settings

/-! ## Getting the bytes -/

/-- The system hands over the bytes of the file that a path leads to: there is one, and no fault strikes
when it is opened. -/
structure Hands (world : World) (path : Path) (bytes : List UInt8) : Prop where
  noNul : Disk.hasNul path = false
  opens : (Fault.ask .openSettings path.name world.faults).1 = none
  isFile : ∃ data, Disk.stat world.disk world.cwd path = .ok (.file data) ∧ data.bytes = bytes

theorem Hands.unique {other : List UInt8} (hands : Hands world path bytes) (hands' : Hands world path other) :
    other = bytes := by
  obtain ⟨data, found, rfl⟩ := hands.isFile
  obtain ⟨data', found', rfl⟩ := hands'.isFile
  cases found.symm.trans found'
  rfl

/-! ## Making sense of them -/

/-- Bytes are a text, and the document in it has a value. -/
def Holds (bytes : List UInt8) (value : Value) : Prop :=
  ∃ text, Text.decodeUtf8 bytes = .ok text ∧ Yaml.valueOf documentDepth text = .ok value

/-- Bytes hold a document with a mapping, or nothing at all. -/
def HoldsEntries (bytes : List UInt8) (entries : List (Value × Value)) : Prop :=
  ∃ value, Holds bytes value ∧ entries? value = some entries

theorem HoldsEntries.unique {entries others : List (Value × Value)} (holds : HoldsEntries bytes entries)
    (holds' : HoldsEntries bytes others) : others = entries := by
  obtain ⟨value, ⟨text, decoded, read⟩, isMapping⟩ := holds
  obtain ⟨value', ⟨text', decoded', read'⟩, isMapping'⟩ := holds'
  cases decoded.symm.trans decoded'
  cases read.symm.trans read'
  cases isMapping.symm.trans isMapping'
  rfl

/-- Bytes describe settings, the paths in them as they are written. -/
def Describes (bytes : List UInt8) (settings : Settings) : Prop :=
  ∃ entries, HoldsEntries bytes entries ∧ entries.all isReadEntry = true ∧
    ofValue (.mapping entries) = .accepted settings

/-- Bytes are wrong for settings. -/
inductive Misdescribes (bytes : List UInt8) : Prop
  /-- The text breaks the rules of documents. -/
  | text {text : String} {error : Yaml.Error} (decoded : Text.decodeUtf8 bytes = .ok text)
      (broken : Yaml.valueOf documentDepth text = .error error) (isSyntax : error.isSyntax = true)
  /-- The document is no mapping. -/
  | shape {value : Value} (holds : Holds bytes value) (other : entries? value = none)
  /-- There are issues with the mapping. -/
  | values {entries : List (Value × Value)} {issues : List Issue} (holds : HoldsEntries bytes entries)
      (areRead : entries.all isReadEntry = true) (rejected : ofValue (.mapping entries) = .rejected issues)

/-- An ending that has half of a character is wrong. -/
theorem misdescribes_of_halfEnding {entries : List (Value × Value)} {ending : Text.RawText}
    (holds : HoldsEntries bytes entries) (areRead : entries.all isReadEntry = true)
    (mixed : Value.field? "artifact_extension" entries = some (.raw ending)) : Misdescribes bytes := by
  cases checked : ofValue (.mapping entries) with
  | rejected issues => exact .values holds areRead checked
  | accepted settings =>
      obtain ⟨_, same, isExtension⟩ := extension_of_ofValue checked
      cases same
      rw [Value.defaulting, mixed] at isExtension
      contradiction

/-- Nothing can be made of bytes. -/
inductive Defies (bytes : List UInt8) : Prop
  /-- They are no text. -/
  | encoding {error : Text.EncodingError} (broken : Text.decodeUtf8 bytes = .error error)
      (short : bytes.length ≤ blockSize)
  /-- A word in them does not stand for what it is said to stand for. -/
  | conversion {text : String} {problem : Yaml.ConversionError}
      (decoded : Text.decodeUtf8 bytes = .ok text)
      (broken : Yaml.valueOf documentDepth text = .error (.conversion problem))

/-- What comes of bytes is left open. -/
inductive IsOpen (bytes : List UInt8) : Prop
  /-- They are no text, and too many for this to be found before anything else. -/
  | long {error : Text.EncodingError} (broken : Text.decodeUtf8 bytes = .error error)
      (long : blockSize < bytes.length)
  /-- Something else than a text is written in them with half of a character. -/
  | unread {text : String} (decoded : Text.decodeUtf8 bytes = .ok text)
      (broken : Yaml.valueOf documentDepth text = .error .half)
  /-- A text in them, not that of the ending, holds half of a character. -/
  | half {entries : List (Value × Value)} (holds : HoldsEntries bytes entries)
      (unread : entries.all isReadEntry = false)

theorem describes_or (bytes : List UInt8) :
    (∃ settings, Describes bytes settings) ∨ Misdescribes bytes ∨ Defies bytes ∨ IsOpen bytes := by
  cases decoded : Text.decodeUtf8 bytes with
  | error error =>
      rcases Nat.lt_or_ge blockSize bytes.length with long | short
      · exact .inr (.inr (.inr (.long decoded long)))
      · exact .inr (.inr (.inl (.encoding decoded short)))
  | ok text =>
      cases read : Yaml.valueOf documentDepth text with
      | error error =>
          cases isSyntax : error.isSyntax with
          | true => exact .inr (.inl (.text decoded read isSyntax))
          | false =>
              cases error with
              | conversion problem => exact .inr (.inr (.inl (.conversion decoded read)))
              | half => exact .inr (.inr (.inr (.unread decoded read)))
              | _ => contradiction
      | ok value =>
          have holds : Holds bytes value := ⟨text, decoded, read⟩
          cases isMapping : entries? value with
          | none => exact .inr (.inl (.shape holds isMapping))
          | some entries =>
              have holds : HoldsEntries bytes entries := ⟨value, holds, isMapping⟩
              cases areRead : entries.all isReadEntry with
              | false => exact .inr (.inr (.inr (.half holds areRead)))
              | true =>
                  cases checked : ofValue (.mapping entries) with
                  | rejected issues => exact .inr (.inl (.values holds areRead checked))
                  | accepted settings => exact .inl ⟨settings, entries, holds, areRead, checked⟩

theorem Describes.isValid (describes : Describes bytes settings) : settings.IsValid := by
  obtain ⟨_, _, _, accepted⟩ := describes
  exact isValid_of_ofValue accepted

end Settings

/-! ## How it ends -/

namespace CommandLine

/-- The code that a command gives to its caller when it stops; none if it did not expect to stop so. -/
def Stop.code? : Stop → Option Nat
  | .refused refusal => some refusal.exitCode
  | .escaped .. => none

end CommandLine

open CommandLine

/-- The code that an error in loading settings stands for. -/
def LoadError.code? : LoadError → Option Nat
  | .missing _ | .unreadable _ => some systemErrorCode
  | .encoding _ => none
  | .document _ error => if error.isSyntax then some 1 else none
  | .configuration _ | .invalid _ => some 1
  | .unread => none

theorem code?_ofLoadError (path : Path) (error : LoadError) :
    (Stop.ofLoadError path error).code? = error.code? := by
  cases error with
  | missing | encoding | configuration | invalid | unread => rfl
  | unreadable error =>
      rw [Stop.ofLoadError]
      split <;> rfl
  | document file error =>
      rw [Stop.ofLoadError, LoadError.code?]
      split <;> rfl

namespace Settings

theorem load_eq (path : Path) (world : World) : load path world =
    (match Disk.isThere world.disk world.cwd path with
      | .error error => pure (.error (.unreadable error))
      | .ok false => pure (.error (.missing path))
      | .ok true => catchSystem (readFile path) >>= fun
          | .error error => pure (.error (.unreadable error))
          | .ok bytes => ofBytes path bytes : Program (Except LoadError Settings)) world := rfl

/-- Reading a file comes to its bytes if no fault strikes and there is a file. -/
theorem readFile_ok {after : World} (done : readFile path world = .ok bytes after) :
    (Fault.ask .openSettings path.name world.faults).1 = none ∧
      ∃ data, Disk.stat world.disk world.cwd path = .ok (.file data) ∧ data.bytes = bytes := by
  obtain ⟨⟨⟩, middle, struck, asked⟩ := bind_ok.1 done
  obtain ⟨opens, rfl⟩ := strike_ok.1 struck
  refine ⟨opens, ?_⟩
  obtain ⟨told, -⟩ := askSystem_ok.1 asked
  dsimp only at told
  rw [Disk.read] at told
  cases found : Disk.stat world.disk world.cwd path with
  | error code =>
      rw [found] at told
      contradiction
  | ok node =>
      rw [found] at told
      cases node with
      | file data =>
          cases told
          exact ⟨data, rfl, rfl⟩
      | dir | link => contradiction

theorem readFile_of_hands (hands : Hands world path bytes) :
    ∃ after, readFile path world = .ok bytes after := by
  obtain ⟨data, found, rfl⟩ := hands.isFile
  refine ⟨_, bind_ok.2 ⟨(), _, strike_ok.2 ⟨hands.opens, rfl⟩, askSystem_ok.2 ⟨?_, rfl⟩⟩⟩
  rw [Disk.read, found]
  rfl

theorem readFile_failsBySystem (path : Path) (world : World) :
    (readFile path).FailsBySystem world := by
  refine (strike_failsBySystem _ _ world).bind fun _ middle _ failure after failed => ?_
  obtain ⟨error, -, rfl, -⟩ := askSystem_error.1 failed
  exact ⟨error, rfl⟩

/-- Bytes that are handed over are what is made sense of. -/
theorem load_of_hands (hands : Hands world path bytes) :
    ∃ middle, load path world = ofBytes path bytes middle := by
  obtain ⟨data, found, -⟩ := hands.isFile
  obtain ⟨middle, done⟩ := readFile_of_hands hands
  have isThere : Disk.isThere world.disk world.cwd path = .ok true :=
    Disk.ask_eq_true_iff.2 ⟨hands.noNul, _, found, rfl⟩
  refine ⟨middle, ?_⟩
  rw [load_eq, isThere]
  dsimp only
  rw [bind_eq, catchSystem_value.2 done]

/-- Where no bytes are handed over, the system is in the way. -/
theorem load_of_withheld (withheld : ∀ bytes, ¬ Hands world path bytes) :
    ∃ error after, load path world = .ok (.error error) after ∧ error.code? = some systemErrorCode := by
  rw [load_eq]
  cases isThere : Disk.isThere world.disk world.cwd path with
  | error error => exact ⟨_, _, rfl, rfl⟩
  | ok isOne =>
      cases isOne with
      | false => exact ⟨_, _, rfl, rfl⟩
      | true =>
          obtain ⟨noNul, -⟩ := Disk.ask_eq_true_iff.1 isThere
          obtain ⟨found, after, done⟩ := (readFile_failsBySystem path world).returns
          dsimp only
          rw [bind_eq, done]
          cases found with
          | error error => exact ⟨_, _, rfl, rfl⟩
          | ok bytes =>
              obtain ⟨opens, isFile⟩ := readFile_ok (catchSystem_value.1 done)
              exact absurd ⟨noNul, opens, isFile⟩ (withheld bytes)

section

variable (path : Path) (world : World)

theorem ofBytes_of_entries {entries : List (Value × Value)} (holds : HoldsEntries bytes entries) :
    ofBytes path bytes world = .ok (ofEntries path entries) world := by
  obtain ⟨value, ⟨text, decoded, read⟩, isMapping⟩ := holds
  rw [ofBytes, decoded]
  dsimp only
  rw [read]
  dsimp only
  rw [isMapping]
  rfl

/-- What describes settings comes to these, their paths meant from the directory of the file. -/
theorem ofBytes_of_describes (describes : Describes bytes settings) :
    ofBytes path bytes world = .ok (.ok (settings.relativeTo path.parent)) world := by
  obtain ⟨entries, holds, areRead, accepted⟩ := describes
  rw [ofBytes_of_entries path world holds, ofEntries, if_pos areRead, accepted]

theorem ofBytes_of_misdescribes (misdescribes : Misdescribes bytes) :
    ∃ error after, ofBytes path bytes world = .ok (.error error) after ∧ error.code? = some 1 := by
  cases misdescribes with
  | @text text error decoded broken isSyntax =>
      rw [ofBytes, decoded]
      dsimp only
      rw [broken]
      cases error with
      | conversion | half => contradiction
      | _ => exact ⟨_, _, rfl, rfl⟩
  | @shape value holds other =>
      obtain ⟨text, decoded, read⟩ := holds
      rw [ofBytes, decoded]
      dsimp only
      rw [read]
      dsimp only
      rw [other]
      exact ⟨_, _, rfl, rfl⟩
  | values holds areRead rejected =>
      rw [ofBytes_of_entries path world holds, ofEntries, if_pos areRead, rejected]
      exact ⟨_, _, rfl, rfl⟩

theorem ofBytes_of_defies (defies : Defies bytes) :
    ∃ error after, ofBytes path bytes world = .ok (.error error) after ∧ error.code? = none := by
  cases defies with
  | encoding broken short =>
      rw [ofBytes, broken]
      dsimp only
      rw [if_pos short]
      exact ⟨_, _, rfl, rfl⟩
  | conversion decoded broken =>
      rw [ofBytes, decoded]
      dsimp only
      rw [broken]
      exact ⟨_, _, rfl, rfl⟩

theorem ofBytes_of_isOpen (isOpen : IsOpen bytes) :
    ofBytes path bytes world = .ok (.error .unread) world := by
  cases isOpen with
  | long broken long =>
      rw [ofBytes, broken]
      dsimp only
      rw [if_neg (Nat.not_le.2 long)]
      rfl
  | unread decoded broken =>
      rw [ofBytes, decoded]
      dsimp only
      rw [broken]
      rfl
  | half holds unread =>
      rw [ofBytes_of_entries path world holds, ofEntries, if_neg (ne_true_of_eq_false unread)]

end

end Settings

end Enhance
