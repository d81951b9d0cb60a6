import NetworkManager.Core.SriovVf
import NetworkManager.Core.VariantRoundTrip

/-!
# Virtual functions read back

The VLANs of a virtual function are read from their list one after the other.  For the reader of
attributes this list is just the value of one more attribute.
-/

namespace NetworkManager.Sriov

open Ascii List Option VariantAttributes

theorem strchomp_of_not_isSpace {string : List Char} (plain : ∀ c ∈ string, isSpace c = false) :
    strchomp string = string := by
  have kept : string.reverse.dropWhile isSpace = string.reverse := by
    refine dropWhile_eq_self_iff.mpr fun nonempty => ?_
    exact Bool.eq_false_iff.mp (plain _ (mem_reverse.mp (List.get_mem _ _)))
  rw [strchomp, kept, reverse_reverse]

theorem digit_toDigits {number : Nat} {c : Char} (mem : c ∈ Nat.toDigits 10 number) :
    c.isDigit = true ∧ isSpace c = false ∧ c ≠ '.' ∧ c ≠ ';' := by
  have below := digitValue_lt_of_mem_toDigits (by omega) (by omega) mem
  have digit := isDigit_of_digitValue below
  refine ⟨digit, ?_, ?_, ?_⟩
  · have plain := (digit_is_plain (Nat.lt_of_lt_of_le below (by omega))).1
    rw [isStrtollSpace, Bool.or_eq_false_iff] at plain
    exact plain.1
  · rintro rfl
    exact absurd digit (by decide)
  · rintro rfl
    exact absurd digit (by decide)

theorem parseNumber_toDigits {number : Nat} {max : Int} (fallback : Int)
    (high : (number : Int) ≤ max) (small : number < 2 ^ 63) :
    parseNumber (Nat.toDigits 10 number) max fallback = number := by
  unfold parseNumber
  rw [if_pos, strToInt64_decimal_auto fallback (by omega) high small]
  refine List.all_eq_true.mpr fun c mem => ?_
  rw [(digit_toDigits mem).1, Bool.or_true]

theorem strsplit_append {delimiter : Char} {front : List Char} (absent : delimiter ∉ front)
    (cuts : Nat) (rest : List Char) :
    strsplit delimiter (cuts + 1) (front ++ delimiter :: rest) =
      front :: strsplit delimiter cuts rest := by
  rw [strsplit, cutAt_append absent]

theorem strsplit_of_not_mem {delimiter : Char} {string : List Char} (absent : delimiter ∉ string)
    (cuts : Nat) : strsplit delimiter cuts string = [string] := by
  cases cuts with
  | zero => rfl
  | succ cuts => rw [strsplit, cutAt_eq_none absent]

theorem strsplit_vlanText (vlanId qos : UInt32) (protocol : NMSriovVFVlanProtocol) :
    strsplit '.' 2 (vlanText vlanId qos protocol) =
      Nat.toDigits 10 vlanId.toNat ::
        if qos ≠ 0 ∨ protocol ≠ .q then
          Nat.toDigits 10 qos.toNat :: if protocol = .q then [] else ["ad".toList]
        else [] := by
  have no_dot : ∀ number, '.' ∉ Nat.toDigits 10 number := fun number mem =>
    (digit_toDigits mem).2.2.1 rfl
  unfold vlanText
  split
  · rw [cons_append, strsplit_append (no_dot _)]
    cases protocol with
    | q => rw [if_pos rfl, if_pos rfl, append_nil, strsplit_of_not_mem (no_dot _)]
    | ad =>
      rw [if_neg (by decide), if_neg (by decide)]
      show _ :: strsplit '.' 1 (_ ++ '.' :: "ad".toList) = _
      rw [strsplit_append (no_dot _)]
      rfl
  · rw [append_nil, strsplit_of_not_mem (no_dot _)]

/-- A virtual function with one more VLAN. -/
def withVlan (vf : NMSriovVF) (vlanId : UInt32) (vlan : VFVlan) : NMSriovVF :=
  { vf with vlans := vf.vlans.set vlanId vlan }

theorem setVlanQos_withVlan (vf : NMSriovVF) (vlanId qos : UInt32) (vlan : VFVlan) :
    (withVlan vf vlanId vlan).setVlanQos vlanId qos =
      withVlan vf vlanId { vlan with qos := qos } := by
  unfold withVlan NMSriovVF.setVlanQos
  dsimp only
  rw [OrderedMap.get_set_self]
  dsimp only
  rw [OrderedMap.set_set]

theorem setVlanProtocol_withVlan (vf : NMSriovVF) (vlanId : UInt32)
    (protocol : NMSriovVFVlanProtocol) (vlan : VFVlan) :
    (withVlan vf vlanId vlan).setVlanProtocol vlanId protocol =
      withVlan vf vlanId { vlan with protocol := protocol } := by
  unfold withVlan NMSriovVF.setVlanProtocol
  dsimp only
  rw [OrderedMap.get_set_self]
  dsimp only
  rw [OrderedMap.set_set]

variable {vf : NMSriovVF}

theorem addVlan_eq {vlanId : UInt32} (absent : vlanId ∉ vf.vlans.keys) :
    vf.addVlan vlanId = some (withVlan vf vlanId ⟨0, .q⟩) := by
  rw [NMSriovVF.addVlan, OrderedMap.get_eq_none.mpr absent, if_neg (by simp)]
  rfl

theorem vlanText_head (vlanId qos : UInt32) (protocol : NMSriovVFVlanProtocol) :
    ∃ first others, vlanText vlanId qos protocol = first :: others ∧ isSpace first = false := by
  obtain ⟨first, others, digits_eq⟩ :=
    exists_cons_of_ne_nil (Nat.toDigits_ne_nil (b := 10) (n := vlanId.toNat))
  have digit : first ∈ Nat.toDigits 10 vlanId.toNat := by
    rw [digits_eq]
    exact mem_cons_self
  rw [vlanText, digits_eq, cons_append]
  exact ⟨first, _, rfl, (digit_toDigits digit).2.1⟩

theorem parseVlan_vlanText {vlanId : UInt32} (absent : vlanId ∉ vf.vlans.keys) (le : vlanId ≤ 4095)
    (vlan : VFVlan) :
    parseVlan vf (vlanText vlanId vlan.qos vlan.protocol) = .ok (withVlan vf vlanId vlan) := by
  obtain ⟨first, others, text_eq, not_space⟩ := vlanText_head vlanId vlan.qos vlan.protocol
  have stripped : skipLeadingSpaces (vlanText vlanId vlan.qos vlan.protocol) =
      vlanText vlanId vlan.qos vlan.protocol := by
    rw [text_eq, skipLeadingSpaces, dropWhile_cons_of_neg (by simp [not_space])]
  have nonempty : vlanText vlanId vlan.qos vlan.protocol ≠ [] := by
    rw [text_eq]
    exact cons_ne_nil _ _
  have id_le : (vlanId.toNat : Int) ≤ 4095 := by
    exact_mod_cast UInt32.le_iff_toNat_le.mp le
  have chomped : ∀ number, strchomp (Nat.toDigits 10 number) = Nat.toDigits 10 number :=
    fun number => strchomp_of_not_isSpace fun c mem => (digit_toDigits mem).2.1
  have id_eq : parseNumber (Nat.toDigits 10 vlanId.toNat) 4095 (2 ^ 32 - 1) = vlanId.toNat :=
    parseNumber_toDigits _ id_le (by omega)
  have qos_lt := vlan.qos.toNat_lt
  have qos_eq : parseNumber (Nat.toDigits 10 vlan.qos.toNat) (2 ^ 32 - 1) (-1) = vlan.qos.toNat :=
    parseNumber_toDigits _ (by omega) (by omega)
  have id_back : UInt32.ofNat ((vlanId.toNat : Int)).toNat = vlanId := by simp
  have qos_back : UInt32.ofNat ((vlan.qos.toNat : Int)).toNat = vlan.qos := by simp
  unfold parseVlan
  dsimp only
  rw [stripped, if_neg nonempty, strsplit_vlanText]
  dsimp only
  rw [if_neg Nat.toDigits_ne_nil, chomped, ite_self, id_eq, if_neg (by omega), id_back,
    addVlan_eq absent]
  dsimp only
  obtain ⟨qos, protocol⟩ := vlan
  by_cases written : qos ≠ 0 ∨ protocol ≠ .q
  · rw [if_pos written]
    dsimp only at qos_eq qos_back ⊢
    rw [chomped, ite_self, qos_eq, if_neg (by omega), qos_back, setVlanQos_withVlan]
    cases protocol with
    | q => rw [if_pos rfl]
    | ad =>
      rw [if_neg (by decide)]
      dsimp only
      have ad : strchomp "ad".toList = "ad".toList := by decide
      rw [ad, if_pos rfl, setVlanProtocol_withVlan]
  · rw [if_neg written]
    rw [not_or, not_not, not_not] at written
    rw [written.1, written.2]

def vlanWords (vf : NMSriovVF) (vlanIds : List UInt32) : List (List Char) :=
  vlanIds.map fun vlanId => vlanText vlanId (vf.getVlanQos vlanId) (vf.getVlanProtocol vlanId)

theorem foldlM_parseVlan {vf read : NMSriovVF} {vlanIds : List UInt32}
    (known : ∀ vlanId ∈ vlanIds, vlanId ∈ vf.vlans.keys)
    (le : ∀ vlanId ∈ vlanIds, vlanId ≤ 4095)
    (distinct : (read.vlans.keys ++ vlanIds).Nodup) :
    ∃ next, (vlanWords vf vlanIds).foldlM parseVlan read = .ok next ∧
      next.index = read.index ∧ next.attributes = read.attributes ∧
        next.vlans.entries = read.vlans.entries ++ vlanIds.filterMap fun vlanId =>
          (vf.vlans.get vlanId).map fun vlan => (vlanId, vlan) := by
  induction vlanIds generalizing read with
  | nil => exact ⟨read, rfl, rfl, rfl, (append_nil _).symm⟩
  | cons vlanId vlanIds ih =>
    obtain ⟨vlan, vlan_eq⟩ := isSome_iff_exists.mp
      (OrderedMap.get_isSome.mpr (known vlanId mem_cons_self))
    have absent : vlanId ∉ read.vlans.keys := fun listed =>
      disjoint_of_nodup_append distinct listed mem_cons_self
    have keys_eq : (withVlan read vlanId vlan).vlans.keys = read.vlans.keys ++ [vlanId] := by
      rw [withVlan, OrderedMap.keys_set, if_neg absent]
    have next_distinct : ((withVlan read vlanId vlan).vlans.keys ++ vlanIds).Nodup := by
      rw [keys_eq, append_assoc, singleton_append]
      exact distinct
    obtain ⟨next, next_eq, index_eq, attributes_eq, vlans_eq⟩ :=
      ih (fun other listed => known other (mem_cons_of_mem _ listed))
        (fun other listed => le other (mem_cons_of_mem _ listed)) next_distinct
    refine ⟨next, ?_, index_eq, attributes_eq, ?_⟩
    · have word_eq : vlanText vlanId (vf.getVlanQos vlanId) (vf.getVlanProtocol vlanId) =
          vlanText vlanId vlan.qos vlan.protocol := by
        rw [NMSriovVF.getVlanQos, NMSriovVF.getVlanProtocol, vlan_eq]
        rfl
      rw [vlanWords, map_cons, foldlM_cons, word_eq,
        parseVlan_vlanText absent (le vlanId mem_cons_self)]
      exact next_eq
    · rw [vlans_eq, filterMap_cons_some (by rw [vlan_eq, map_some]), withVlan,
        OrderedMap.entries_set_of_not_mem absent, append_assoc, singleton_append]

theorem vlanText_plain {vlanId qos : UInt32} {protocol : NMSriovVFVlanProtocol} {c : Char}
    (mem : c ∈ vlanText vlanId qos protocol) :
    c ≠ ';' ∧ c ≠ ' ' ∧ c ≠ '=' ∧ c ≠ '\\' := by
  have digit_plain : c.isDigit = true → c ≠ ';' ∧ c ≠ ' ' ∧ c ≠ '=' ∧ c ≠ '\\' := by
    intro digit
    refine ⟨?_, ?_, ?_, ?_⟩ <;>
      · rintro rfl
        exact absurd digit (by decide)
  unfold vlanText at mem
  rcases mem_append.mp mem with mem | mem
  · exact digit_plain (digit_toDigits mem).1
  · split at mem
    · rcases mem_cons.mp mem with rfl | mem
      · decide
      · rcases mem_append.mp mem with mem | mem
        · exact digit_plain (digit_toDigits mem).1
        · split at mem
          · cases mem
          · have letters : c = '.' ∨ c = 'a' ∨ c = 'd' := by simpa using mem
            rcases letters with rfl | rfl | rfl <;> decide
    · cases mem

theorem splitOn_vlansText (vf : NMSriovVF) {word : List Char} (plain : ';' ∉ word)
    (vlanIds : List UInt32) :
    (word ++ vlansText vf ';' vlanIds).splitOn ';' = word :: vlanWords vf vlanIds := by
  have not_separator : ∀ c ∈ word, (c == ';') = false := fun c mem => by
    rw [beq_eq_false_iff_ne]
    rintro rfl
    exact plain mem
  induction vlanIds generalizing word with
  | nil =>
    rw [vlansText, append_nil]
    exact splitOnP_eq_singleton not_separator
  | cons vlanId vlanIds ih =>
    have word_plain : ';' ∉ vlanText vlanId (vf.getVlanQos vlanId) (vf.getVlanProtocol vlanId) :=
      fun mem => (vlanText_plain mem).1 rfl
    rw [vlansText, cons_append, splitOn,
      splitOnP_append_cons_of_forall_mem not_separator _ (by rfl)]
    refine congrArg (List.cons word) (ih word_plain fun c mem => ?_)
    rw [beq_eq_false_iff_ne]
    exact (vlanText_plain mem).1

theorem mem_vlansText {vlanIds : List UInt32} {c : Char} (mem : c ∈ vlansText vf ';' vlanIds) :
    c ≠ ' ' ∧ c ≠ '=' ∧ c ≠ '\\' := by
  induction vlanIds with
  | nil => cases mem
  | cons vlanId vlanIds ih =>
    rw [vlansText, cons_append] at mem
    rcases mem_cons.mp mem with rfl | mem
    · decide
    · rcases mem_append.mp mem with mem | mem
      · exact (vlanText_plain mem).2
      · exact ih mem

theorem vlansText_eq (vf : NMSriovVF) (vlanId : UInt32) (vlanIds : List UInt32) :
    ∃ list, vlansText vf '=' (vlanId :: vlanIds) = '=' :: list ∧
      strsplitSet ';' list = vlanWords vf (vlanId :: vlanIds) ∧
        ∀ c ∈ list, c ≠ ' ' ∧ c ≠ '=' ∧ c ≠ '\\' := by
  refine ⟨vlanText vlanId (vf.getVlanQos vlanId) (vf.getVlanProtocol vlanId) ++
    vlansText vf ';' vlanIds, ?_, ?_, ?_⟩
  · rw [vlansText, cons_append]
  · rw [strsplitSet, splitOn_vlansText vf fun mem => (vlanText_plain mem).1 rfl]
    refine filter_eq_self.mpr fun word listed => decide_eq_true ?_
    have is_text : word ∈ vlanWords vf (vlanId :: vlanIds) := listed
    obtain ⟨other, _, rfl⟩ := List.mem_map.mp is_text
    obtain ⟨first, others, text_eq, _⟩ :=
      vlanText_head other (vf.getVlanQos other) (vf.getVlanProtocol other)
    rw [text_eq]
    exact cons_ne_nil _ _
  · intro c mem
    rcases mem_append.mp mem with mem | mem
    · exact (vlanText_plain mem).2
    · exact mem_vlansText mem

def writtenAttributes (vf : NMSriovVF) : Attributes :=
  vf.getAttributeNames.filterMap fun name => (vf.getAttribute name).map fun value => (name, value)

theorem writtenAttributes_perm (vf : NMSriovVF) :
    (writtenAttributes vf).Perm vf.attributes.entries := by
  rw [vf.attributes.entries_eq]
  exact (ListSort.sort_perm compare vf.attributes.keys).filterMap _

theorem nodup_writtenAttributes (vf : NMSriovVF) : ((writtenAttributes vf).map Prod.fst).Nodup :=
  ((writtenAttributes_perm vf).map Prod.fst).nodup_iff.mpr vf.attributes.nodup

theorem forM_eq_ok {α ε : Type} {check : α → Except ε Unit} {items : List α}
    (all_ok : items.forM check = .ok ()) {item : α} (mem : item ∈ items) : check item = .ok () := by
  induction items with
  | nil => cases mem
  | cons first items ih =>
    have all_ok : (check first >>= fun _ => items.forM check) = .ok () := all_ok
    cases first_eq : check first with
    | error error =>
      rw [first_eq] at all_ok
      cases all_ok
    | ok value =>
      rw [first_eq] at all_ok
      rcases mem_cons.mp mem with rfl | mem
      · exact first_eq
      · exact ih all_ok mem

theorem spec_of_attributeValidate {name : List Char} {value : GVariant}
    (valid : attributeValidate name value = .ok ()) :
    (∃ s ∈ sriovVfAttributeSpec, s.name = name ∧ s.type = value.type) ∧ name ≠ "vlans".toList := by
  unfold attributeValidate at valid
  split at valid
  · cases valid
  · rename_i spec strType found
    have listed := List.mem_of_find?_eq_some found
    have name_eq : spec.name = name := by simpa using find?_some found
    split at valid
    · cases valid
    · rename_i not_dbus
      split at valid
      · cases valid
      · rename_i same_type
        refine ⟨⟨spec, List.mem_map.mpr ⟨_, listed, rfl⟩, name_eq, ?_⟩, ?_⟩
        · exact (not_not.mp same_type).symm
        · rintro rfl
          have only_dbus : ∀ entry ∈ sriovVfAttributeSpecTypes, entry.1.name = "vlans".toList →
              entry.2 = .dbus := by decide
          exact not_dbus (only_dbus _ listed name_eq)

theorem spec_of_valid (valid : attributeValidateAll vf = .ok ()) {entry : List Char × GVariant}
    (mem : entry ∈ vf.attributes.entries) :
    (∃ s ∈ sriovVfAttributeSpec, s.name = entry.1 ∧ s.type = entry.2.type) ∧
      entry.1 ≠ "vlans".toList := by
  unfold attributeValidateAll at valid
  split at valid
  · cases valid
  · rename_i all_ok
    exact spec_of_attributeValidate (forM_eq_ok all_ok mem)

theorem spec_supported {s : NMVariantAttributeSpec} (mem : s ∈ sriovVfAttributeSpec) :
    s.type ≠ .other ∧ s.noValue = false ∧ '=' ∉ s.name ∧ s.name ≠ [] ∧ s.name ≠ "index".toList := by
  have all_supported : ∀ s ∈ sriovVfAttributeSpec, s.type ≠ .other ∧ s.noValue = false ∧
      '=' ∉ s.name ∧ s.name ≠ [] ∧ s.name ≠ "index".toList := by decide
  exact all_supported s mem

def textAttributes (vf : NMSriovVF) (list : Option (List Char)) : Attributes :=
  writtenAttributes vf ++ (list.map fun list => ("vlans".toList, GVariant.string list)).toList

theorem assigns_textAttributes (valid : attributeValidateAll vf = .ok ())
    (list : Option (List Char)) : Assigns sriovVfAttributeSpec (textAttributes vf list) where
  distinct := by decide
  no_positional s mem := (spec_supported mem).2.1
  nodup := by
    rw [textAttributes, map_append, nodup_append]
    refine ⟨nodup_writtenAttributes vf, ?_, ?_⟩
    · cases list with
      | none => exact nodup_nil
      | some list => exact nodup_singleton _
    · rintro name named _ last rfl
      obtain ⟨entry, mem, rfl⟩ := List.mem_map.mp named
      have not_vlans := (spec_of_valid valid ((writtenAttributes_perm vf).mem_iff.mp mem)).2
      cases list with
      | none => cases last
      | some list => exact not_vlans (mem_singleton.mp last)
  typed entry mem := by
    rw [textAttributes, mem_append] at mem
    rcases mem with mem | mem
    · obtain ⟨⟨s, listed, name_eq, type_eq⟩, _⟩ :=
        spec_of_valid valid ((writtenAttributes_perm vf).mem_iff.mp mem)
      refine ⟨?_, s, listed, name_eq, type_eq⟩
      intro other
      exact (spec_supported listed).1 (by rw [type_eq, other]; rfl)
    · cases list with
      | none => cases mem
      | some list =>
        obtain rfl := mem_singleton.mp mem
        refine ⟨by simp, ⟨"vlans".toList, .string, false, false⟩, by decide, rfl, rfl⟩

theorem attributeEscape_of_plain {text : List Char}
    (plain : ∀ c ∈ text, c ≠ ' ' ∧ c ≠ '=' ∧ c ≠ '\\') : attributeEscape ' ' '=' text = text := by
  induction text with
  | nil => rfl
  | cons c text ih =>
    obtain ⟨not_blank, not_equal, not_backslash⟩ := plain c mem_cons_self
    rw [attributeEscape, if_neg (by simp [not_blank, not_equal, not_backslash]),
      ih fun other mem => plain other (mem_cons_of_mem _ mem)]

theorem formatFull_append_vlans {values : Attributes}
    (supported : ∀ entry ∈ values, entry.2 ≠ .other) {list : List Char}
    (plain : ∀ c ∈ list, c ≠ ' ' ∧ c ≠ '=' ∧ c ≠ '\\') (sep : List Char) :
    formatVariantAttributesFull ' ' '=' sep (values ++ [("vlans".toList, .string list)]) =
      formatVariantAttributesFull ' ' '=' sep values ++
        ((if values = [] then sep else [' ']) ++ ("vlans".toList ++ '=' :: list)) := by
  induction values generalizing sep with
  | nil =>
    have name_eq : attributeEscape ' ' '=' "vlans".toList = "vlans".toList := by decide
    rw [nil_append, formatFull_cons sep (by simp), entryText, name_eq, valueText]
    show sep ++ ("vlans".toList ++ '=' :: attributeEscape ' ' '=' list ++ []) = _
    rw [attributeEscape_of_plain plain, append_nil, if_pos rfl]
    rfl
  | cons entry values ih =>
    rw [cons_append, formatFull_cons sep (supported entry mem_cons_self),
      formatFull_cons sep (supported entry mem_cons_self),
      ih (fun other mem => supported other (mem_cons_of_mem _ mem)), ite_self,
      if_neg (cons_ne_nil _ _), append_assoc, append_assoc]

theorem sriovVfToStr_eq (supported : ∀ entry ∈ writtenAttributes vf, entry.2 ≠ .other) :
    ∃ list : Option (List Char),
      (list = none ∧ vf.getVlanIds = [] ∨ ∃ text, list = some text ∧ vf.getVlanIds ≠ [] ∧
        strsplitSet ';' text = vlanWords vf vf.getVlanIds) ∧
      sriovVfToStr vf false = Nat.toDigits 10 vf.index.toNat ++
        if textAttributes vf list = [] then []
        else ' ' :: formatVariantAttributesFull ' ' '=' [] (textAttributes vf list) := by
  have values_eq : (vf.getAttributeNames.filterMap fun name =>
      (vf.getAttribute name).map fun value => (name, value)) = writtenAttributes vf := rfl
  unfold sriovVfToStr
  dsimp only
  rw [values_eq, if_neg Bool.false_ne_true, if_neg Bool.false_ne_true]
  cases ids_eq : vf.getVlanIds with
  | nil =>
    refine ⟨none, .inl ⟨rfl, rfl⟩, ?_⟩
    have no_vlans : ¬ ([] : List UInt32).length ≠ 0 := by simp
    rw [if_neg no_vlans, append_nil]
    show _ = _ ++ if writtenAttributes vf ++ [] = [] then [] else
      ' ' :: formatVariantAttributesFull ' ' '=' [] (writtenAttributes vf ++ [])
    rw [append_nil]
    cases writtenAttributes vf with
    | nil => rfl
    | cons entry values => rfl
  | cons vlanId vlanIds =>
    obtain ⟨list, list_eq, split, plain⟩ := vlansText_eq vf vlanId vlanIds
    refine ⟨some list, .inr ⟨list, rfl, by simp, split⟩, ?_⟩
    have some_vlans : (vlanId :: vlanIds).length ≠ 0 := by simp
    have some_text : writtenAttributes vf ++ [("vlans".toList, .string list)] ≠ [] := by simp
    rw [if_pos some_vlans, list_eq]
    show _ = _ ++ if writtenAttributes vf ++ [("vlans".toList, .string list)] = [] then [] else
      ' ' :: formatVariantAttributesFull ' ' '=' []
        (writtenAttributes vf ++ [("vlans".toList, .string list)])
    rw [if_neg some_text, formatFull_append_vlans supported plain, append_assoc]
    cases writtenAttributes vf with
    | nil => rfl
    | cons entry values => rfl

theorem parseVariantAttributes_textAttributes (valid : attributeValidateAll vf = .ok ())
    {list : Option (List Char)} (nonempty : textAttributes vf list ≠ []) :
    parseVariantAttributes
        (formatVariantAttributesFull ' ' '=' [] (textAttributes vf list)) ' ' '=' false
          sriovVfAttributeSpec =
      .ok (textAttributes vf list) := by
  have assigns := assigns_textAttributes valid list
  obtain ⟨entry, values, entries_eq⟩ := exists_cons_of_ne_nil nonempty
  have unspoiled : ∀ entry ∈ textAttributes vf list, Unspoiled '=' entry := by
    intro entry mem
    obtain ⟨_, s, listed, name_eq, _⟩ := assigns.typed entry mem
    exact .inl (name_eq ▸ (spec_supported listed).2.2.1)
  have supported : ∀ entry ∈ textAttributes vf list, entry.2 ≠ .other :=
    fun entry mem => (assigns.typed entry mem).1
  unfold parseVariantAttributes
  rw [entries_eq] at supported ⊢
  rw [parseLoop_format (by decide) (by decide) (by decide) assigns.no_positional supported]
  rw [← entries_eq, readEntries_unspoiled assigns (Subset.refl _) unspoiled, nil_append]
  rw [nil_append]
  exact assigns.nodup

theorem foldl_setAttribute {values : Attributes}
    (named : ∀ entry ∈ values, entry.1 ≠ [] ∧ entry.1 ≠ "index".toList) (vf : NMSriovVF) :
    values.foldl (fun vf entry => vf.setAttribute entry.1 entry.2) vf =
      { vf with
        attributes := values.foldl (fun map entry => map.set entry.1 entry.2) vf.attributes } := by
  induction values generalizing vf with
  | nil => rfl
  | cons entry values ih =>
    obtain ⟨nonempty, not_index⟩ := named entry mem_cons_self
    rw [foldl_cons, ih fun other mem => named other (mem_cons_of_mem _ mem),
      NMSriovVF.setAttribute, decide_eq_false nonempty, decide_eq_false not_index, Bool.or_self,
      if_neg Bool.false_ne_true, foldl_cons]

/-- Tables with the same entries in any order are equal for `nm_sriov_vf_equal`. -/
theorem equal_of_perm {vf other : NMSriovVF} (same_index : vf.index = other.index)
    (same_attributes : other.attributes.entries.Perm vf.attributes.entries)
    (same_vlans : other.vlans.entries.Perm vf.vlans.entries) : vf.equal other = true := by
  unfold NMSriovVF.equal
  rw [same_attributes.length_eq, same_vlans.length_eq]
  simp only [Bool.and_eq_true, decide_eq_true_iff, List.all_eq_true]
  refine ⟨⟨⟨⟨same_index, trivial⟩, ?_⟩, trivial⟩, ?_⟩
  · intro entry mem
    exact OrderedMap.get_of_mem (same_attributes.mem_iff.mpr mem)
  · intro entry mem
    exact OrderedMap.get_of_mem (same_vlans.mem_iff.mpr mem)

theorem vlanEntries_perm (vf : NMSriovVF) :
    (vf.getVlanIds.filterMap fun vlanId =>
      (vf.vlans.get vlanId).map fun vlan => (vlanId, vlan)).Perm vf.vlans.entries := by
  rw [vf.vlans.entries_eq]
  exact (ListSort.sort_perm compare vf.vlans.keys).filterMap _

theorem parseVlans_getVlanIds (le : ∀ vlanId ∈ vf.vlans.keys, vlanId ≤ 4095) {text : List Char}
    (some_vlans : vf.getVlanIds ≠ []) (split : strsplitSet ';' text = vlanWords vf vf.getVlanIds)
    (index : UInt32) :
    ∃ read, parseVlans (.new index) text = .ok read ∧ read.index = index ∧
      read.attributes = .empty ∧ read.vlans.entries.Perm vf.vlans.entries := by
  have sorted := ListSort.sort_perm compare vf.vlans.keys
  have known : ∀ vlanId ∈ vf.getVlanIds, vlanId ∈ vf.vlans.keys :=
    fun vlanId listed => sorted.mem_iff.mp listed
  have distinct : ((NMSriovVF.new index).vlans.keys ++ vf.getVlanIds).Nodup :=
    sorted.nodup_iff.mpr vf.vlans.nodup_keys
  obtain ⟨read, read_eq, index_eq, attributes_eq, vlans_eq⟩ :=
    foldlM_parseVlan known (fun vlanId listed => le vlanId (known vlanId listed)) distinct
  refine ⟨read, ?_, index_eq, attributes_eq, ?_⟩
  · unfold parseVlans
    rw [split]
    obtain ⟨vlanId, vlanIds, ids_eq⟩ := exists_cons_of_ne_nil some_vlans
    rw [ids_eq] at read_eq ⊢
    exact read_eq
  · rw [vlans_eq]
    exact vlanEntries_perm vf

theorem find?_vlans_writtenAttributes (valid : attributeValidateAll vf = .ok ())
    (list : Option (List Char)) :
    (textAttributes vf list).find? (fun entry => entry.1 = "vlans".toList) =
        list.map (fun list => ("vlans".toList, GVariant.string list)) ∧
      (textAttributes vf list).filter (fun entry => entry.1 ≠ "vlans".toList) =
        writtenAttributes vf := by
  have not_vlans : ∀ entry ∈ writtenAttributes vf, entry.1 ≠ "vlans".toList := fun entry mem =>
    (spec_of_valid valid ((writtenAttributes_perm vf).mem_iff.mp mem)).2
  have not_found : (writtenAttributes vf).find? (fun entry => entry.1 = "vlans".toList) = none :=
    find?_eq_none.mpr fun entry mem => by simpa using not_vlans entry mem
  have all_kept : (writtenAttributes vf).filter (fun entry => entry.1 ≠ "vlans".toList) =
      writtenAttributes vf :=
    filter_eq_self.mpr fun entry mem => decide_eq_true (not_vlans entry mem)
  rw [textAttributes, find?_append, not_found, filter_append, all_kept]
  cases list with
  | none => exact ⟨rfl, append_nil _⟩
  | some list =>
    refine ⟨rfl, ?_⟩
    rw [map_some, toList_some, filter_cons_of_neg (by simp), filter_nil, append_nil]

theorem exists_vlans_read (le : ∀ vlanId ∈ vf.vlans.keys, vlanId ≤ 4095) {list : Option (List Char)}
    (list_vlans : list = none ∧ vf.getVlanIds = [] ∨ ∃ text, list = some text ∧
      vf.getVlanIds ≠ [] ∧ strsplitSet ';' text = vlanWords vf vf.getVlanIds) (index : UInt32) :
    ∃ read, (match list with
        | some str => parseVlans (.new index) str
        | none => .ok (.new index)) = .ok read ∧ read.index = index ∧
      read.attributes = .empty ∧ read.vlans.entries.Perm vf.vlans.entries := by
  rcases list_vlans with ⟨rfl, ids_eq⟩ | ⟨text, rfl, some_vlans, split⟩
  · refine ⟨.new index, rfl, rfl, rfl, ?_⟩
    have no_entries := vlanEntries_perm vf
    rw [ids_eq] at no_entries
    exact no_entries
  · exact parseVlans_getVlanIds le some_vlans split index

theorem equal_foldl_setAttribute {vf read : NMSriovVF} (valid : attributeValidateAll vf = .ok ())
    (index_eq : read.index = vf.index) (no_attributes : read.attributes = .empty)
    (vlans_perm : read.vlans.entries.Perm vf.vlans.entries) :
    vf.equal ((writtenAttributes vf).foldl (fun vf entry => vf.setAttribute entry.1 entry.2)
      read) = true := by
  have named : ∀ entry ∈ writtenAttributes vf, entry.1 ≠ [] ∧ entry.1 ≠ "index".toList := by
    intro entry mem
    obtain ⟨⟨s, listed, name_eq, _⟩, _⟩ :=
      spec_of_valid valid ((writtenAttributes_perm vf).mem_iff.mp mem)
    exact name_eq ▸ (spec_supported listed).2.2.2
  rw [foldl_setAttribute named]
  refine equal_of_perm index_eq.symm ?_ vlans_perm
  dsimp only
  have fresh : ((OrderedMap.empty : OrderedMap (List Char) GVariant).keys ++
      (writtenAttributes vf).map Prod.fst).Nodup := nodup_writtenAttributes vf
  rw [no_attributes, OrderedMap.entries_foldl_set fresh]
  exact writtenAttributes_perm vf

/-- A virtual function with valid attributes is read back from its text. -/
theorem sriovVfFromStr_sriovVfToStr (vf : NMSriovVF) (valid : attributeValidateAll vf = .ok ())
    (le : ∀ vlanId ∈ vf.vlans.keys, vlanId ≤ 4095) :
    ∃ read, sriovVfFromStr (sriovVfToStr vf false) = .ok read ∧ vf.equal read = true := by
  have supported : ∀ entry ∈ writtenAttributes vf, entry.2 ≠ .other := fun entry mem =>
    ((assigns_textAttributes valid none).typed entry (mem_append_left _ mem)).1
  obtain ⟨list, list_vlans, text_eq⟩ := sriovVfToStr_eq supported
  obtain ⟨read, vlans_read, read_index, no_attributes, vlans_perm⟩ :=
    exists_vlans_read le list_vlans vf.index
  have equal := equal_foldl_setAttribute valid read_index no_attributes vlans_perm
  have index_le := vf.index.toNat_lt
  have index_eq : strToInt64 (Nat.toDigits 10 vf.index.toNat) 10 0 (2 ^ 32 - 1) (-1) =
      vf.index.toNat := strToInt64_decimal _ (by omega) (by omega) (by omega)
  have index_back : UInt32.ofNat ((vf.index.toNat : Int)).toNat = vf.index := by simp
  have no_blank : ' ' ∉ Nat.toDigits 10 vf.index.toNat := fun mem =>
    absurd (digit_toDigits mem).1 (by decide)
  obtain ⟨first, others, digits_eq⟩ :=
    exists_cons_of_ne_nil (Nat.toDigits_ne_nil (b := 10) (n := vf.index.toNat))
  have no_leading : ∀ rest, (Nat.toDigits 10 vf.index.toNat ++ rest).dropWhile (· = ' ') =
      Nat.toDigits 10 vf.index.toNat ++ rest := by
    intro rest
    have not_blank : first ≠ ' ' := fun same => no_blank (by
      rw [digits_eq, same]
      exact mem_cons_self)
    rw [digits_eq, cons_append, dropWhile_cons_of_neg (by simpa using not_blank)]
  unfold sriovVfFromStr
  rw [text_eq, no_leading]
  by_cases empty : textAttributes vf list = []
  · -- There is only the index.
    obtain ⟨no_values, no_list⟩ := append_eq_nil_iff.mp empty
    obtain rfl : list = none := by
      cases list with
      | none => rfl
      | some list => cases no_list
    rw [no_values, foldl_nil] at equal
    refine ⟨read, ?_, equal⟩
    rw [if_pos empty, append_nil, cutAt_eq_none no_blank]
    dsimp only
    unfold sriovVfFromStrparts
    rw [index_eq]
    dsimp only
    rw [if_neg (by omega), index_back]
    exact vlans_read
  · rw [if_neg empty, cutAt_append no_blank]
    dsimp only
    obtain ⟨found, kept⟩ := find?_vlans_writtenAttributes valid list
    refine ⟨_, ?_, equal⟩
    unfold sriovVfFromStrparts
    rw [index_eq]
    dsimp only
    rw [if_neg (by omega), index_back, parseVariantAttributes_textAttributes valid empty]
    dsimp only
    rw [found, kept]
    cases list with
    | none =>
      obtain rfl : NMSriovVF.new vf.index = read := Except.ok.inj vlans_read
      rw [map_none]
    | some text =>
      rw [map_some]
      dsimp only at vlans_read ⊢
      rw [vlans_read]

/-- A trusted virtual function with a hardware address and two VLANs, one of them of 802.1ad. -/
theorem sriovVfFromStr_sriovVfToStr_two_vlans :
    let vf : NMSriovVF :=
      { index := 7
        attributes := ⟨[("trust".toList, .boolean true),
          ("mac".toList, .string "00:11:22:33:44:55".toList)], by decide⟩
        vlans := ⟨[(100, ⟨5, .ad⟩), (3, ⟨0, .q⟩)], by decide⟩ }
    sriovVfToStr vf false = "7 mac=00:11:22:33:44:55 trust=true vlans=3;100.5.ad".toList ∧
      ∃ read, sriovVfFromStr (sriovVfToStr vf false) = .ok read ∧ vf.equal read = true := by
  refine ⟨by decide +kernel, sriovVfFromStr_sriovVfToStr _ (by decide +kernel) ?_⟩
  intro vlanId listed
  have either : vlanId = 100 ∨ vlanId = 3 := by simpa [OrderedMap.keys] using listed
  rcases either with rfl | rfl <;> decide

end NetworkManager.Sriov
