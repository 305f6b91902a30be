/-
Module: RecompilerAdapter.Proofs.OptionMembers
Purpose: What an object says about tunables. An object is a list of members, each a key and a value as it
  is written. Only members whose key is the name of a tunable count: each name may occur once, with a
  truth value, and tunables without a member keep their default. A reader that goes through the members in
  their order and remembers the tunables it has met accepts exactly such lists, and comes to exactly that
  meaning.
Trusted boundary: none
Main exports: Options.Member, Options.Acceptable, Options.Means, Options.accept?,
  Options.accept?_eq_some_iff
-/
import RecompilerAdapter.Options.Reader
import RecompilerAdapter.Proofs.SkippedValues

namespace RecompilerAdapter

open Json

namespace OptionName

/-- No two tunables have the same name. -/
theorem bytes_injective {name other : OptionName} (same : name.bytes = other.bytes) :
    name = other := by
  revert same
  cases name <;> cases other <;> decide +kernel

/-- The list of names is complete. -/
theorem mem_all (name : OptionName) : name ∈ all := by
  cases name <;> decide

/-- Bytes that are found among the names are those of the name. -/
theorem bytes_of_ofBytes? {bytes : List UInt8} {name : OptionName}
    (found : ofBytes? bytes = some name) : bytes = name.bytes := by
  have same := List.find?_some (p := fun name : OptionName => name.bytes == bytes) found
  exact (eq_of_beq same).symm

/-- A key names a tunable exactly if it has the bytes of its name, byte by byte. Neither case nor
blanks are overlooked. -/
theorem ofBytes?_eq_some_iff {bytes : List UInt8} {name : OptionName} :
    ofBytes? bytes = some name ↔ bytes = name.bytes := by
  constructor
  · exact bytes_of_ofBytes?
  · rintro rfl
    cases found : ofBytes? name.bytes with
    | none =>
      have differs := List.find?_eq_none.1 found name name.mem_all
      exact absurd (beq_self_eq_true name.bytes) differs
    | some other => rw [bytes_injective (bytes_of_ofBytes? found)]

/-- All other keys name nothing, and their members are passed over. -/
theorem ofBytes?_eq_none_iff {bytes : List UInt8} :
    ofBytes? bytes = none ↔ ∀ name : OptionName, bytes ≠ name.bytes := by
  constructor
  · rintro none name rfl
    rw [ofBytes?_eq_some_iff.2 rfl] at none
    cases none
  · intro differs
    cases found : ofBytes? bytes with
    | none => rfl
    | some name => exact absurd (ofBytes?_eq_some_iff.1 found) (differs name)

end OptionName

namespace Options

/-- Two choices of tunables that agree on each of them are the same. -/
theorem ext_get {options other : Options} (same : ∀ name, options.get name = other.get name) :
    options = other := by
  cases options
  cases other
  have fast := same .enableFastDispatch
  have hints := same .hookHintInstructions
  have unpredictable := same .defineUnpredictableBehaviour
  have halts := same .checkHaltOnMemoryAccess
  have endian := same .alwaysLittleEndian
  simp only [get] at fast hints unpredictable halts endian
  rw [fast, hints, unpredictable, halts, endian]

/-! ### Members and their meaning -/

/-- The bytes of a truth value. -/
def flagBytes : Bool → List UInt8
  | true => 0x74 :: trueRest
  | false => 0x66 :: falseRest

/-- A member of an object: the bytes that its key stands for, and its value as it is written. The
key is decoded since it may be written with escapes; the value is not. -/
structure Member where
  key : List UInt8
  value : List UInt8
deriving DecidableEq

namespace Member

/-- The member that gives a tunable a value. -/
def flag (name : OptionName) (value : Bool) : Member :=
  ⟨name.bytes, flagBytes value⟩

/-- Whether the key is the name of the tunable. -/
def isFor (name : OptionName) (member : Member) : Bool :=
  member.key == name.bytes

/-- Whether the key is the name of any tunable. -/
def isNamed (member : Member) : Bool :=
  (OptionName.ofBytes? member.key).isSome

/-- Two ways to say which tunable a member is for. -/
theorem isFor_iff {name : OptionName} {member : Member} :
    member.isFor name ↔ member.key = name.bytes :=
  beq_iff_eq

/-- A member with a truth value determines both the name and the value. -/
theorem flag_inj {name other : OptionName} {value flag : Bool} :
    Member.flag name value = Member.flag other flag ↔ name = other ∧ value = flag := by
  constructor
  · intro same
    obtain ⟨sameKey, sameValue⟩ := Member.mk.inj same
    refine ⟨OptionName.bytes_injective sameKey, ?_⟩
    revert sameValue
    cases value <;> cases flag <;> decide
  · rintro ⟨rfl, rfl⟩
    rfl

/-- A member of another name is for no tunable. -/
theorem isFor_of_unnamed {member : Member} (unnamed : OptionName.ofBytes? member.key = none)
    (name : OptionName) : member.isFor name = false :=
  beq_eq_false_iff_ne.2 (OptionName.ofBytes?_eq_none_iff.1 unnamed name)

/-- A member that is for some tunable is named. -/
theorem isNamed_of_isFor {name : OptionName} {member : Member} (isFor : member.isFor name) :
    member.isNamed := by
  rw [isNamed, OptionName.ofBytes?_eq_some_iff.2 (isFor_iff.1 isFor)]
  rfl

end Member

/-- Members that give each tunable at most one value, and a truth value. Members with other keys are
free, and may occur any number of times. -/
structure Acceptable (members : List Member) : Prop where
  once : ∀ name : OptionName, members.countP (Member.isFor name) ≤ 1
  literal : ∀ name : OptionName, ∀ member ∈ members, member.key = name.bytes →
    ∃ value, member.value = flagBytes value

/-- The tunables that members mean: each is as its member states, or else as by default. For
acceptable members there is exactly one such choice of tunables. -/
structure Means (members : List Member) (options : Options) : Prop where
  stated : ∀ (name : OptionName) (value : Bool), Member.flag name value ∈ members →
    options.get name = value
  missing : ∀ name : OptionName, (∀ member ∈ members, member.key ≠ name.bytes) →
    options.get name = default.get name

/-- Members that give each tunable a truth value, or none, mean one choice of tunables. -/
theorem Means.unique {members : List Member} {options other : Options}
    (acceptable : Acceptable members) (means : Means members options)
    (meansOther : Means members other) : options = other := by
  apply ext_get
  intro name
  by_cases stated : ∃ member ∈ members, member.key = name.bytes
  · obtain ⟨⟨key, written⟩, isMember, rfl⟩ := stated
    obtain ⟨value, rfl⟩ := acceptable.literal name _ isMember rfl
    rw [means.stated name value isMember, meansOther.stated name value isMember]
  · have absent : ∀ member ∈ members, member.key ≠ name.bytes := by
      intro member isMember same
      exact stated ⟨member, isMember, same⟩
    rw [means.missing name absent, meansOther.missing name absent]

section Permuted

variable {members others : List Member}
  (rearranged : (members.filter Member.isNamed).Perm (others.filter Member.isNamed))

include rearranged

/-- The members that are named are the same in another order. Those of other names need not even be
there. -/
theorem mem_of_permuted {name : OptionName} {member : Member} (isMember : member ∈ members)
    (isFor : member.key = name.bytes) : member ∈ others := by
  have isNamed := Member.isNamed_of_isFor (Member.isFor_iff.2 isFor)
  have kept := rearranged.mem_iff.1 (List.mem_filter.2 ⟨isMember, isNamed⟩)
  exact (List.mem_filter.1 kept).1

/-- Neither the order of the members nor those of other names matter. -/
theorem Acceptable.permuted (acceptable : Acceptable members) : Acceptable others where
  once := by
    intro name
    have count_named (list : List Member) :
        list.countP (Member.isFor name) = (list.filter Member.isNamed).countP (Member.isFor name) := by
      rw [List.countP_filter]
      apply List.countP_congr
      intro member _
      simp only [Bool.and_eq_true, iff_self_and]
      exact Member.isNamed_of_isFor
    rw [count_named, ← rearranged.countP_eq, ← count_named]
    exact acceptable.once name
  literal := by
    intro name member isMember isFor
    exact acceptable.literal name member (mem_of_permuted rearranged.symm isMember isFor) isFor

/-- So the meaning does not depend on their order. -/
theorem Means.permuted {options : Options} (means : Means members options) :
    Means others options where
  stated := by
    intro name value isMember
    exact means.stated name value (mem_of_permuted rearranged.symm isMember rfl)
  missing := by
    intro name absent
    refine means.missing name fun member isMember isFor => ?_
    exact absent member (mem_of_permuted rearranged isMember isFor) isFor

end Permuted

/-! ### Collecting members in their order -/

/-- The truth value that is written. -/
def flag? (written : List UInt8) : Option Bool :=
  [true, false].find? fun value => flagBytes value == written

/-- Whether a tunable has been read. -/
def isSeen (seen : List (OptionName × Bool)) (name : OptionName) : Bool :=
  seen.any fun entry => entry.1 == name

/-- What has been read after one more member; `none` if the member is not accepted. Members of
unknown keys are passed over. -/
def accept? (seen : List (OptionName × Bool)) (member : Member) :
    Option (List (OptionName × Bool)) :=
  match OptionName.ofBytes? member.key with
  | none => some seen
  | some name =>
    if isSeen seen name then none
    else (flag? member.value).map fun value => (name, value) :: seen

/-- What has been read after some more members, in their order. This is the reader's own course
through an object, without the text. -/
def collect? (seen : List (OptionName × Bool)) (members : List Member) :
    Option (List (OptionName × Bool)) :=
  members.foldlM accept? seen

variable {seen next collected : List (OptionName × Bool)} {member : Member}
  {members others : List Member} {name : OptionName}

@[simp] theorem collect?_nil : collect? seen [] = some seen :=
  rfl

/-- Members are accepted one after the other, until one is not. -/
@[simp] theorem collect?_cons :
    collect? seen (member :: members) = (accept? seen member).bind (collect? · members) :=
  rfl

/-- A truth value is recognised exactly in the form in which it is written. -/
theorem flag?_eq_some_iff {written : List UInt8} {value : Bool} :
    flag? written = some value ↔ written = flagBytes value := by
  constructor
  · intro found
    have same := List.find?_some (p := fun value => flagBytes value == written) found
    exact (eq_of_beq same).symm
  · rintro rfl
    cases value <;> rfl

/-- A name that was met stays so. -/
theorem isSeen_cons {value : Bool} {other : OptionName} :
    isSeen ((name, value) :: seen) other = (name == other || isSeen seen other) :=
  rfl

/-- A member of another name is passed over, whatever its value is. -/
theorem accept?_unnamed (unnamed : OptionName.ofBytes? member.key = none) :
    accept? seen member = some seen := by
  rw [accept?, unnamed]

/-- A member for a tunable is accepted if the tunable has not been read and the value is a truth
value. -/
theorem accept?_eq_some_iff (named : OptionName.ofBytes? member.key = some name) :
    accept? seen member = some next ↔ isSeen seen name = false ∧
      ∃ value, member.value = flagBytes value ∧ next = (name, value) :: seen := by
  rw [accept?, named]
  constructor
  · intro accepted
    dsimp only at accepted
    split at accepted
    · cases accepted
    · rename_i unseen
      obtain ⟨value, isValue, rfl⟩ := Option.map_eq_some_iff.1 accepted
      exact ⟨by simpa using unseen, value, flag?_eq_some_iff.1 isValue, rfl⟩
  · rintro ⟨unseen, value, isValue, rfl⟩
    simp [unseen, flag?_eq_some_iff.2 isValue]

/-- A member of another name has no influence on what is acceptable. -/
theorem acceptable_cons_unnamed (unnamed : OptionName.ofBytes? member.key = none) :
    Acceptable (member :: members) ↔ Acceptable members := by
  have notFor := Member.isFor_of_unnamed unnamed
  constructor
  · rintro ⟨once, literal⟩
    refine ⟨fun name => ?_, fun name other isMember => literal name other (.tail _ isMember)⟩
    simpa [List.countP_cons, notFor] using once name
  · rintro ⟨once, literal⟩
    refine ⟨fun name => ?_, fun name other isMember isFor => ?_⟩
    · simpa [List.countP_cons, notFor] using once name
    · cases isMember with
      | head => exact absurd isFor (OptionName.ofBytes?_eq_none_iff.1 unnamed name)
      | tail _ isMember => exact literal name other isMember isFor

/-- A member for a tunable must hold a truth value and be the only one. Asking this of the first
member is what the reader does when it meets it. -/
theorem acceptable_cons_named (named : member.key = name.bytes) :
    Acceptable (member :: members) ↔ (∃ value, member.value = flagBytes value) ∧
      (∀ other ∈ members, other.key ≠ name.bytes) ∧ Acceptable members := by
  have isFor : member.isFor name := Member.isFor_iff.2 named
  constructor
  · rintro ⟨once, literal⟩
    have absent : members.countP (Member.isFor name) = 0 := by
      have atMost := once name
      rw [List.countP_cons_of_pos isFor] at atMost
      omega
    refine ⟨literal name member (.head _) named, ?_, fun other => ?_, ?_⟩
    · intro other isMember sameName
      exact List.countP_eq_zero.1 absent other isMember (Member.isFor_iff.2 sameName)
    · have atMost := once other
      rw [List.countP_cons] at atMost
      omega
    · exact fun other member isMember => literal other member (.tail _ isMember)
  · rintro ⟨value, absent, once, literal⟩
    refine ⟨fun other => ?_, fun other candidate isMember isCandidate => ?_⟩
    · by_cases same : name = other
      · subst same
        rw [List.countP_cons_of_pos isFor]
        have none : members.countP (Member.isFor name) = 0 :=
          List.countP_eq_zero.2 fun member isMember isFor =>
            absent member isMember (Member.isFor_iff.1 isFor)
        omega
      · have notFor : ¬ member.isFor other := by
          rw [Member.isFor_iff, named]
          exact fun equal => same (OptionName.bytes_injective equal)
        rw [List.countP_cons_of_neg notFor]
        exact once other
    · cases isMember with
      | head => exact value
      | tail _ isMember => exact literal other candidate isMember isCandidate

/-- Members are collected if they are acceptable and give nothing that has been read. By induction
on the members, for any tunables that have been read already. -/
theorem exists_collect?_iff : (∃ collected, collect? seen members = some collected) ↔
    Acceptable members ∧
      ∀ name, isSeen seen name → ∀ member ∈ members, member.key ≠ name.bytes := by
  induction members generalizing seen with
  | nil =>
    have acceptable : Acceptable [] := ⟨by simp, by simp⟩
    simp [acceptable]
  | cons member members ih =>
    rw [collect?_cons]
    -- A member of an unknown key changes neither side. One that is named counts as seen for all
    -- members behind it.
    cases found : OptionName.ofBytes? member.key with
    | none =>
      have apart := OptionName.ofBytes?_eq_none_iff.1 found
      rw [accept?_unnamed found, Option.bind_some, ih, acceptable_cons_unnamed found]
      simp [apart]
    | some name =>
      have named := OptionName.ofBytes?_eq_some_iff.1 found
      rw [acceptable_cons_named named]
      constructor
      · rintro ⟨collected, isCollected⟩
        obtain ⟨next, isNext, onward⟩ := Option.bind_eq_some_iff.1 isCollected
        obtain ⟨unseen, value, isValue, rfl⟩ := (accept?_eq_some_iff found).1 isNext
        obtain ⟨acceptable, apart⟩ := ih.1 ⟨collected, onward⟩
        refine ⟨⟨⟨value, isValue⟩, apart name (by simp [isSeen_cons]), acceptable⟩, ?_⟩
        intro other seenOther candidate isMember
        cases isMember with
        | head =>
          rw [named]
          intro same
          rw [OptionName.bytes_injective same, seenOther] at unseen
          cases unseen
        | tail _ isMember => exact apart other (by simp [isSeen_cons, seenOther]) candidate isMember
      · rintro ⟨⟨⟨value, isValue⟩, absent, acceptable⟩, apart⟩
        have unseen : isSeen seen name = false := by
          rw [Bool.eq_false_iff]
          exact fun seenName => apart name seenName member (.head _) named
        have accepted := (accept?_eq_some_iff found).2 ⟨unseen, value, isValue, rfl⟩
        rw [accepted, Option.bind_some]
        apply ih.2 ⟨acceptable, ?_⟩
        intro other seenOther candidate isMember
        rw [isSeen_cons, Bool.or_eq_true, beq_iff_eq] at seenOther
        rcases seenOther with rfl | seenOther
        · exact absent candidate isMember
        · exact apart other seenOther candidate (.tail _ isMember)

/-- What one more member adds is what it states. -/
theorem mem_accept?_iff (accepted : accept? seen member = some next) {value : Bool} :
    (name, value) ∈ next ↔ (name, value) ∈ seen ∨ Member.flag name value = member := by
  cases found : OptionName.ofBytes? member.key with
  | none =>
    rw [accept?_unnamed found] at accepted
    cases accepted
    have apart : Member.flag name value ≠ member := by
      rintro rfl
      exact OptionName.ofBytes?_eq_none_iff.1 found name rfl
    simp [apart]
  | some other =>
    have named := OptionName.ofBytes?_eq_some_iff.1 found
    obtain ⟨-, written, isValue, rfl⟩ := (accept?_eq_some_iff found).1 accepted
    have isFlag : member = Member.flag other written := by
      cases member
      simp_all [Member.flag]
    rw [isFlag, Member.flag_inj, List.mem_cons, Prod.mk.injEq, or_comm]

/-- What was collected is what was there before and what the members state. -/
theorem mem_collect?_iff (isCollected : collect? seen members = some collected) {value : Bool} :
    (name, value) ∈ collected ↔ (name, value) ∈ seen ∨ Member.flag name value ∈ members := by
  induction members generalizing seen with
  | nil =>
    cases isCollected
    simp
  | cons member members ih =>
    obtain ⟨next, isNext, onward⟩ := Option.bind_eq_some_iff.1 isCollected
    rw [ih onward, mem_accept?_iff isNext, List.mem_cons, or_assoc]

/-- No tunable is read twice. -/
theorem nodup_accept? (distinct : (seen.map Prod.fst).Nodup)
    (accepted : accept? seen member = some next) : (next.map Prod.fst).Nodup := by
  cases found : OptionName.ofBytes? member.key with
  | none =>
    rw [accept?_unnamed found] at accepted
    cases accepted
    exact distinct
  | some name =>
    obtain ⟨unseen, value, -, rfl⟩ := (accept?_eq_some_iff found).1 accepted
    refine List.nodup_cons.2 ⟨fun isMember => ?_, distinct⟩
    obtain ⟨entry, isEntry, same⟩ := List.mem_map.1 isMember
    have seenName : isSeen seen name := List.any_eq_true.2 ⟨entry, isEntry, beq_iff_eq.2 same⟩
    rw [unseen] at seenName
    cases seenName

/-- No name is collected twice. -/
theorem nodup_collect? (distinct : (seen.map Prod.fst).Nodup)
    (isCollected : collect? seen members = some collected) : (collected.map Prod.fst).Nodup := by
  induction members generalizing seen with
  | nil =>
    cases isCollected
    exact distinct
  | cons member members ih =>
    obtain ⟨next, isNext, onward⟩ := Option.bind_eq_some_iff.1 isCollected
    exact ih (nodup_accept? distinct isNext) onward

/-- A tunable that was collected is as it was stated. -/
theorem get_ofMembers_of_mem {entries : List (OptionName × Bool)} {value : Bool}
    (distinct : (entries.map Prod.fst).Nodup) (isMember : (name, value) ∈ entries) :
    (ofMembers entries).get name = value := by
  induction entries with
  | nil => cases isMember
  | cons entry entries ih =>
    obtain ⟨isNew, distinct⟩ := List.nodup_cons.1 distinct
    change ((ofMembers entries).set entry.1 entry.2).get name = value
    rw [get_set]
    cases isMember with
    | head => exact if_pos rfl
    | tail _ isMember =>
      have apart : name ≠ entry.1 := by
        rintro rfl
        exact isNew (List.mem_map.2 ⟨_, isMember, rfl⟩)
      rw [if_neg apart]
      exact ih distinct isMember

/-- A tunable that was not is as by default. -/
theorem get_ofMembers_of_absent {entries : List (OptionName × Bool)}
    (absent : ∀ value, (name, value) ∉ entries) :
    (ofMembers entries).get name = default.get name := by
  induction entries with
  | nil => rfl
  | cons entry entries ih =>
    change ((ofMembers entries).set entry.1 entry.2).get name = default.get name
    have apart : name ≠ entry.1 := by
      rintro rfl
      exact absent entry.2 (.head _)
    rw [get_set, if_neg apart]
    exact ih fun value isMember => absent value (.tail _ isMember)

/-- What is collected gives each tunable the meaning of the members. -/
theorem means_of_collect? (isCollected : collect? [] members = some collected) :
    Means members (ofMembers collected) where
  stated := by
    intro name value isMember
    have distinct := nodup_collect? (show (List.map Prod.fst []).Nodup from .nil) isCollected
    apply get_ofMembers_of_mem distinct
    exact (mem_collect?_iff isCollected).2 (.inr isMember)
  missing := by
    intro name absent
    apply get_ofMembers_of_absent
    intro value isMember
    rcases (mem_collect?_iff isCollected).1 isMember with isSeen | isMember
    · cases isSeen
    · exact absent _ isMember rfl

/-- Starting with nothing, the reader accepts just the acceptable lists. -/
theorem exists_collect?_nil_iff :
    (∃ collected, collect? [] members = some collected) ↔ Acceptable members := by
  rw [exists_collect?_iff]
  simp [isSeen]

/-- Acceptable members mean some choice of tunables. -/
theorem Acceptable.exists_means (acceptable : Acceptable members) :
    ∃ options, Means members options := by
  obtain ⟨collected, isCollected⟩ := exists_collect?_nil_iff.2 acceptable
  exact ⟨ofMembers collected, means_of_collect? isCollected⟩

/-- Going through the members in their order accepts exactly the acceptable ones, and comes to
exactly their meaning. -/
theorem collect?_map_eq_some_iff {options : Options} :
    (collect? [] members).map ofMembers = some options ↔
      Acceptable members ∧ Means members options := by
  constructor
  · intro same
    obtain ⟨collected, isCollected, rfl⟩ := Option.map_eq_some_iff.1 same
    have acceptable := exists_collect?_nil_iff.1 ⟨collected, isCollected⟩
    exact ⟨acceptable, means_of_collect? isCollected⟩
  · rintro ⟨acceptable, means⟩
    obtain ⟨collected, isCollected⟩ := exists_collect?_nil_iff.2 acceptable
    rw [isCollected, Option.map_some,
      Means.unique acceptable (means_of_collect? isCollected) means]

end Options

end RecompilerAdapter
