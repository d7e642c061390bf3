/-
# Outbound.Proofs.Wire.Body — octets, texts and parts as they should be sent

What is sent of a datum is said here without the functions that bring it to hand: the
octets of a datum that gives octets (`Datum.Gives`), those of a text in the charset of
a datum (`Datum.Spells`), the path that a datum names (`Datum.Names`), and a part
(`Part.Conveys`).  A charset that counts as false is UTF-8; a name that no charset has
is that of a registered codec, which is taken at its word.

What is brought to hand is what should be sent (`spells_of_encodeIn`,
`conveys_of_wire`), and a datum that is turned into octets gives these and no others
(`gives_iff`).
-/
import Outbound.Proofs.Fallible
import Outbound.Proofs.Text.Charset
import Outbound.Wire.Body

namespace Outbound

set_option autoImplicit false

namespace Datum

/-! ## Octets -/

/-- The number that an element of a collection is. -/
def number? : Datum → Option Int
  | .int n => some n
  | .bool b => some b.toInt
  | _ => none

def numbers (bytes : Octets) : List (Option Int) := bytes.map fun b => some (b.toNat : Int)

/-- The datum gives octets: those it holds, zeros as many as it counts, the text of a path, or the
octets whose numbers it collects. -/
inductive Gives : Datum → Octets → Prop where
  | octets (holder : OctetHolder) (bytes : Octets) : Gives (.octets holder bytes) bytes
  | count (n : Nat) : Gives (.int n) (List.replicate n 0)
  | truth (b : Bool) : Gives (.bool b) (List.replicate b.toNat 0)
  | path (path : Path) : Gives (.path path) path.text.toByteArray.data.toList
  | collection {d : Datum} {elements : List Datum} {bytes : Octets} (notText : d.asText? = none)
      (listed : d.elements? = .ok elements) (each : elements.map number? = numbers bytes) :
      Gives d bytes

theorem numbers_inj {bytes bytes' : Octets} (same : numbers bytes = numbers bytes') :
    bytes = bytes' := by
  refine (List.map_inj_right fun b b' same => ?_).1 same
  exact UInt8.toNat_inj.1 (Int.ofNat_inj.1 (Option.some.inj same))

theorem eq_of_octet {n : Int} {b : UInt8} (made : octet n = .ok b) : n = b.toNat := by
  rw [octet] at made
  split at made
  · obtain rfl := Except.ok.inj made
    simp
    omega
  · cases made

theorem number?_of_elementOctet {d : Datum} {b : UInt8} (made : d.elementOctet = .ok b) :
    d.number? = some (b.toNat : Int) := by
  cases d with
  | int n => exact congrArg some (eq_of_octet made)
  | bool t => exact congrArg some (eq_of_octet made)
  | _ => cases made

theorem map_number?_of_mapM {elements : List Datum} {bytes : Octets}
    (made : elements.mapM elementOctet = .ok bytes) : elements.map number? = numbers bytes := by
  rw [numbers, ← List.forall₂_eq_eq_eq, List.forall₂_map_left_iff, List.forall₂_map_right_iff]
  exact (mapM_eq_ok_iff.1 made).imp fun _ _ => number?_of_elementOctet

theorem exists_of_zeros {n : Int} {bytes : Octets} (made : zeros n = .ok bytes) :
    ∃ count : Nat, n = count ∧ bytes = List.replicate count 0 := by
  rw [zeros] at made
  split at made
  · cases made
  · split at made
    · cases made
    · rename_i nonneg
      refine ⟨n.toNat, by omega, ?_⟩
      repeat' split at made
      all_goals first | cases made; done | exact (Except.ok.inj made).symm

/-- What a collection is turned into are the octets of its numbers. -/
theorem map_number?_of_toOctets {d : Datum} {elements : List Datum} {bytes : Octets}
    (notText : d.asText? = none) (listed : d.elements? = .ok elements)
    (made : d.toOctets = .ok bytes) : elements.map number? = numbers bytes := by
  cases d with
  | text s => cases notText
  | octets holder held =>
      obtain rfl := Except.ok.inj made
      obtain rfl := Except.ok.inj listed
      rw [List.map_map]
      rfl
  | absent | bool | int | double | path | uri | record | shown => cases listed
  | list | dict | fields | payload =>
      simp only [toOctets, listed] at made
      exact map_number?_of_mapM made

theorem Gives.eq_of_toOctets {d : Datum} {bytes made : Octets} (gives : d.Gives bytes)
    (isMade : d.toOctets = .ok made) : bytes = made := by
  cases gives with
  | octets holder => exact Except.ok.inj isMade
  | count n =>
      obtain ⟨count, same, rfl⟩ := exists_of_zeros isMade
      rw [Int.ofNat_inj.1 same]
  | truth b =>
      obtain ⟨count, same, rfl⟩ := exists_of_zeros isMade
      cases b <;> rw [← Int.ofNat_inj.1 same] <;> rfl
  | path path => exact (Text.Utf8.encode_toList _).symm.trans (Except.ok.inj isMade)
  | collection notText listed each =>
      exact numbers_inj (each.symm.trans (map_number?_of_toOctets notText listed isMade))

theorem gives_of_toOctets {d : Datum} {bytes : Octets} (made : d.toOctets = .ok bytes) :
    d.Gives bytes := by
  have collected : d.asText? = none → (∃ elements, d.elements? = .ok elements) → d.Gives bytes :=
    fun notText ⟨_, listed⟩ =>
      .collection notText listed (map_number?_of_toOctets notText listed made)
  cases d with
  | octets holder held =>
      obtain rfl := Except.ok.inj made
      exact .octets holder held
  | int n =>
      obtain ⟨count, rfl, rfl⟩ := exists_of_zeros made
      exact .count count
  | bool b =>
      obtain ⟨count, same, rfl⟩ := exists_of_zeros made
      cases b <;> rw [← Int.ofNat_inj.1 same]
      · exact .truth false
      · exact .truth true
  | path path =>
      obtain rfl := Except.ok.inj made
      rw [Text.Utf8.encode_toList]
      exact .path path
  | list | dict | fields => exact collected rfl ⟨_, rfl⟩
  | payload object =>
      refine collected rfl ?_
      cases listed : (payload object).elements? with
      | ok elements => exact ⟨elements, rfl⟩
      | error misuse =>
          simp only [toOctets, listed] at made
          cases made
  | _ => cases made

/-- A datum that is turned into octets gives these and no others. -/
theorem gives_iff {d : Datum} {bytes made : Octets} (isMade : d.toOctets = .ok made) :
    d.Gives bytes ↔ bytes = made := by
  constructor
  · intro gives
    exact gives.eq_of_toOctets isMade
  · rintro rfl
    exact gives_of_toOctets isMade

/-! ## Texts -/

/-- The octets of a text in the charset that a datum names: in UTF-8 when the datum counts as false,
in the charset of its name, or as the codec that is registered for the name has it. -/
inductive Spells (codecs : Codecs) (s : String) : Datum → Octets → Prop where
  | unnamed {d : Datum} (counts : d.isTrue = false) : Spells codecs s d s.toByteArray.data.toList
  | charset {name : String} {charset : Text.Charset} {bytes : Octets} (filled : name ≠ "")
      (named : Text.Charset.named? name = some charset)
      (spells : Text.Charset.Spells s charset bytes) : Spells codecs s (.text name) bytes
  | codec {name : String} {encode : String → Except CallbackFault Octets} {bytes : Octets}
      (filled : name ≠ "") (unknown : Text.Charset.named? name = none)
      (registered : codecs name = some encode) (encoded : encode s = .ok bytes) :
      Spells codecs s (.text name) bytes

theorem spells_of_encode {codecs : Codecs} {name s : String} {bytes : Octets}
    (encoded : codecs.encode name s = .ok bytes) (filled : name ≠ "") :
    Spells codecs s (.text name) bytes := by
  rw [Codecs.encode] at encoded
  split at encoded
  · cases encoded
  · split at encoded
    · rename_i charset other named
      have spells := Text.Charset.spells_of_encode (mapError_eq_ok_iff.1 encoded)
      exact .charset filled named spells
    · rename_i encode unknown registered
      exact .codec filled unknown registered (mapError_eq_ok_iff.1 encoded)
    · cases encoded

/-- Only a text is encoded, and its octets are those in the charset. -/
theorem spells_of_encodeIn {codecs : Codecs} {charset d : Datum} {bytes : Octets}
    (encoded : charset.encodeIn codecs d = .ok bytes) :
    ∃ s, d = .text s ∧ Spells codecs s charset bytes := by
  cases d with
  | text s =>
      refine ⟨s, rfl, ?_⟩
      cases counts : charset.isTrue with
      | true =>
          cases charset with
          | text name =>
              simp only [encodeIn, orElse, counts, if_true] at encoded
              exact spells_of_encode encoded (by simpa [isTrue] using counts)
          | _ =>
              simp only [encodeIn, orElse, counts, if_true] at encoded
              cases encoded
      | false =>
          simp only [encodeIn, orElse, counts] at encoded
          have utf8 : Text.Charset.named? "utf-8" = some (.utf8 false) := by decide +kernel
          -- By its name it is the charset without a mark, of which a text has one spelling.
          have spells := spells_of_encode encoded (by decide)
          cases spells with
          | unnamed none => cases none
          | charset filled named spells =>
              obtain rfl := Option.some.inj (utf8.symm.trans named)
              cases spells
              exact .unnamed counts
          | codec filled unknown => cases utf8.symm.trans unknown
  | _ => cases encoded

/-! ## Paths -/

/-- The datum names a path: as a text, as a path, or as an object that stands for one. -/
inductive Names : Datum → Path → Prop where
  | text (s : String) : Names (.text s) (Path.ofText s)
  | path (path : Path) : Names (.path path) path
  | payload {object : Payload} {s : String} (stands : object.path = some s) :
      Names (.payload object) (Path.ofText s)

theorem names_of_path? {d : Datum} {path : Path} (isPath : d.path? = .ok path) : d.Names path := by
  cases d with
  | text s =>
      obtain rfl := Except.ok.inj isPath
      exact .text s
  | path p =>
      obtain rfl := Except.ok.inj isPath
      exact .path p
  | payload object =>
      rw [path?] at isPath
      cases stands : object.path with
      | some s =>
          rw [stands] at isPath
          obtain rfl := Except.ok.inj isPath
          exact .payload stands
      | none =>
          rw [stands] at isPath
          cases isPath
  | octets holder => cases holder <;> cases isPath
  | _ => cases isPath

theorem load_eq_ok {world : World} {file : Datum} {lastName : String} {bytes : Octets}
    (loaded : file.load world = .ok (lastName, bytes)) :
    ∃ path, file.Names path ∧ world.read path = .ok bytes ∧ lastName = path.fileName := by
  obtain ⟨path, isPath, loaded⟩ := bind_eq_ok_iff.1 loaded
  obtain ⟨read, isRead, loaded⟩ := bind_eq_ok_iff.1 loaded
  cases loaded
  exact ⟨path, names_of_path? (mapError_eq_ok_iff.1 isPath), mapError_eq_ok_iff.1 isRead, rfl⟩

end Datum

/-! ## Parts -/

/-- The part is to be sent as this: a text in its charset, octets as they are, a file with what is
read from it, under the last name of its path when no other is given. -/
inductive Part.Conveys (world : World) : Part → WirePart → Prop where
  | text {name contentType charset : Datum} {s : String} {bytes : Octets}
      (spells : charset.Spells world.codecs s bytes) :
      Conveys world (.text name (.text s) contentType charset)
        ⟨name, .absent, .octets .fixed bytes, contentType⟩
  | octets (name data fileName contentType charset : Datum) :
      Conveys world (.octets name data fileName contentType charset)
        ⟨name, fileName, data, contentType⟩
  | file {name file fileName contentType charset : Datum} {path : Path} {bytes : Octets}
      (names : file.Names path) (read : world.read path = .ok bytes) :
      Conveys world (.file name file fileName contentType charset)
        ⟨name, if fileName.isTrue then fileName else .text path.fileName, .octets .fixed bytes,
          contentType⟩

namespace Part

theorem conveys_of_wire {world : World} {part : Part} {wired : WirePart}
    (brought : part.wire world = .ok wired) : part.Conveys world wired := by
  cases part with
  | text name value contentType charset =>
      obtain ⟨bytes, encoded, made⟩ := bind_eq_ok_iff.1 brought
      obtain ⟨s, rfl, spells⟩ := Datum.spells_of_encodeIn encoded
      cases made
      exact .text spells
  | octets name data fileName contentType charset =>
      cases brought
      exact .octets name data fileName contentType charset
  | file name source fileName contentType charset =>
      obtain ⟨⟨lastName, bytes⟩, loaded, made⟩ := bind_eq_ok_iff.1 brought
      obtain ⟨path, names, read, rfl⟩ := Datum.load_eq_ok loaded
      cases made
      exact .file names read
  | other typeName => cases brought

theorem conveys_of_mapM {world : World} {parts : List Part} {wired : List WirePart}
    (brought : parts.mapM (Part.wire world) = .ok wired) :
    List.Forall₂ (Part.Conveys world) parts wired :=
  (mapM_eq_ok_iff.1 brought).imp fun _ _ => conveys_of_wire

end Part

end Outbound
