import DataGrid.Proofs.Source.Scan

/-!
# The first place that is accepted

A search through free SQL takes what its pattern finds at the first place where
the name is the one that is wanted and ends where a name may end.  A place that
is refused does not hide the places that overlap it: the search goes on behind
its first character.  So it goes on at most once for every character of the
text, each time further behind, and always between two characters.
-/

namespace DataGrid.Source

/-- A place of a text: the characters in front of it and those behind it. -/
structure Place (text : String) where
  before : List Char
  behind : List Char
  text_eq : before ++ behind = text.toList

namespace Place

variable {text : String}

/-- The number of bytes in front of a place. -/
def offset (place : Place text) : Nat :=
  (String.ofList place.before).utf8ByteSize

/-- The beginning of a text. -/
def first (text : String) : Place text where
  before := []
  behind := text.toList
  text_eq := rfl

/-- The place behind the next character. -/
def next (place : Place text) {character : Char} {rest : List Char}
    (behind_eq : place.behind = character :: rest) : Place text where
  before := place.before ++ [character]
  behind := rest
  text_eq := by rw [List.append_assoc, List.singleton_append, ← behind_eq,
    place.text_eq]

section Offsets

variable {place other : Place text}

theorem offset_of_before_eq {middle : List Char}
    (before_eq : other.before = place.before ++ middle) :
    other.offset = place.offset + (String.ofList middle).utf8ByteSize := by
  rw [offset, before_eq, String.ofList_append, String.utf8ByteSize_append]
  rfl

theorem offset_next {character : Char} {rest : List Char}
    (behind_eq : place.behind = character :: rest) :
    (place.next behind_eq).offset = place.offset + character.utf8Size := by
  have sizes : (place.next behind_eq).offset =
      place.offset + (String.ofList [character]).utf8ByteSize :=
    offset_of_before_eq rfl
  rw [sizes]
  exact congrArg (place.offset + ·) String.utf8ByteSize_singleton

theorem offset_lt_next {character : Char} {rest : List Char}
    (behind_eq : place.behind = character :: rest) :
    place.offset < (place.next behind_eq).offset := by
  rw [offset_next]
  exact Nat.lt_add_of_pos_right character.utf8Size_pos

/-- Of two places one is reached from the other by going over characters. -/
theorem exists_before_eq (place other : Place text) :
    (∃ middle, other.before = place.before ++ middle) ∨
      ∃ middle, place.before = other.before ++ middle := by
  have shorter : place.before <+: text.toList := ⟨_, place.text_eq⟩
  have shorter' : other.before <+: text.toList := ⟨_, other.text_eq⟩
  rcases List.prefix_or_prefix_of_prefix shorter shorter' with
    ⟨middle, before_eq⟩ | ⟨middle, before_eq⟩
  · exact .inl ⟨middle, before_eq.symm⟩
  · exact .inr ⟨middle, before_eq.symm⟩

theorem eq_of_before_eq (same : other.before = place.before) :
    other = place := by
  have whole := other.text_eq.trans place.text_eq.symm
  obtain ⟨before, behind, text_eq⟩ := place
  obtain ⟨before', behind', text_eq'⟩ := other
  obtain rfl : before' = before := same
  obtain rfl : behind' = behind := List.append_cancel_left whole
  rfl

theorem eq_of_behind_eq (same : other.behind = place.behind) :
    other = place := by
  have whole := other.text_eq.trans place.text_eq.symm
  rw [same] at whole
  exact eq_of_before_eq (List.append_cancel_right whole)

theorem eq_of_offset_eq (same : other.offset = place.offset) :
    other = place := by
  rcases exists_before_eq place other with
    ⟨middle, before_eq⟩ | ⟨middle, before_eq⟩
  all_goals
    have sizes := offset_of_before_eq before_eq
    have nothing : (String.ofList middle).utf8ByteSize = 0 := by omega
    rw [String.utf8ByteSize_eq_zero_iff, String.ofList_eq_empty_iff] at nothing
    rw [nothing, List.append_nil] at before_eq
  · exact eq_of_before_eq before_eq
  · exact (eq_of_before_eq before_eq).symm

/-- Behind a place comes the next one, and then all others. -/
theorem next_le_of_lt {character : Char} {rest : List Char}
    (behind_eq : place.behind = character :: rest)
    (less : place.offset < other.offset) :
    (place.next behind_eq).offset ≤ other.offset := by
  rcases exists_before_eq place other with
    ⟨middle, before_eq⟩ | ⟨middle, before_eq⟩
  · have whole := other.text_eq.trans place.text_eq.symm
    rw [before_eq, behind_eq, List.append_assoc] at whole
    have middle_eq := List.append_cancel_left whole
    cases middle with
    | nil =>
        have sizes := offset_of_before_eq before_eq
        rw [String.ofList_nil, String.utf8ByteSize_empty] at sizes
        omega
    | cons first middle =>
        obtain ⟨rfl, -⟩ := List.cons.inj middle_eq
        have onward : other.before = (place.next behind_eq).before ++ middle :=
          before_eq.trans (List.append_assoc _ [first] middle).symm
        rw [offset_of_before_eq onward]
        exact Nat.le_add_right _ _
  · have sizes := offset_of_before_eq before_eq
    omega

/-- The place at the end of a text is the last one. -/
theorem eq_of_behind_eq_nil (behind_eq : place.behind = [])
    (behind : place.offset ≤ other.offset) : other = place := by
  rcases exists_before_eq place other with
    ⟨middle, before_eq⟩ | ⟨middle, before_eq⟩
  · have whole := other.text_eq.trans place.text_eq.symm
    rw [before_eq, behind_eq, List.append_assoc] at whole
    obtain ⟨rfl, -⟩ := List.append_eq_nil_iff.mp (List.append_cancel_left whole)
    exact eq_of_before_eq (before_eq.trans (List.append_nil _))
  · have sizes := offset_of_before_eq before_eq
    exact eq_of_offset_eq (by omega)

end Offsets

/-- The places of a text are where it can be cut. -/
theorem exists_offset_eq_iff (position : String.Pos.Raw) :
    (∃ place : Place text, place.offset = position.byteIdx) ↔
      position.IsValid text := by
  rw [String.Pos.Raw.isValid_iff_exists_append]
  constructor
  · rintro ⟨place, same⟩
    refine ⟨String.ofList place.before, String.ofList place.behind, ?_,
      String.Pos.Raw.ext same.symm⟩
    rw [← String.ofList_append, place.text_eq, String.ofList_toList]
  · rintro ⟨before, behind, rfl, rfl⟩
    refine ⟨⟨before.toList, behind.toList, String.toList_append.symm⟩, ?_⟩
    rw [offset, String.ofList_toList, String.byteIdx_rawEndPos]

end Place

/-- The first place at or behind an offset at which something is found. -/
structure FirstAt {text : String} (finds : Place text → Option Found)
    (start : Nat) (place : Place text) (found : Found) : Prop where
  here : finds place = some found
  behindStart : start ≤ place.offset
  leftmost : ∀ earlier : Place text, start ≤ earlier.offset →
    earlier.offset < place.offset → finds earlier = none

section First

variable {text : String} {finds : Place text → Option Found}
  {place hit other : Place text} {found : Found} {start : Nat}

theorem FirstAt.unique {found' : Found} (first : FirstAt finds start hit found)
    (first' : FirstAt finds start other found') :
    hit = other ∧ found = found' := by
  rcases Nat.lt_trichotomy hit.offset other.offset with less | same | greater
  · have none := first'.leftmost hit first.behindStart less
    exact nomatch first.here.symm.trans none
  · obtain rfl := Place.eq_of_offset_eq same
    exact ⟨rfl, Option.some.inj (first.here.symm.trans first'.here)⟩
  · have none := first.leftmost other first'.behindStart greater
    exact nomatch first'.here.symm.trans none

theorem firstAt_here (here : finds place = some found) :
    FirstAt finds place.offset place found where
  here := here
  behindStart := Nat.le_refl _
  leftmost _ least less := absurd least (Nat.not_le_of_lt less)

/-- At the end of a text something is found there or nowhere. -/
theorem firstAt_iff_of_nil (behind_eq : place.behind = []) :
    FirstAt finds place.offset hit found ↔
      hit = place ∧ finds place = some found := by
  constructor
  · intro first
    obtain rfl := Place.eq_of_behind_eq_nil behind_eq first.behindStart
    exact ⟨rfl, first.here⟩
  · rintro ⟨rfl, here⟩
    exact firstAt_here here

/-- Elsewhere the first place is the one that is looked at, or else the first
one from the next place on. -/
theorem firstAt_iff_of_cons {character : Char} {rest : List Char}
    (behind_eq : place.behind = character :: rest) :
    FirstAt finds place.offset hit found ↔
      (hit = place ∧ finds place = some found) ∨
        (finds place = none ∧
          FirstAt finds (place.next behind_eq).offset hit found) := by
  have onward := Place.offset_lt_next behind_eq
  constructor
  · intro first
    rcases Nat.eq_or_lt_of_le first.behindStart with same | less
    · obtain rfl := Place.eq_of_offset_eq same.symm
      exact .inl ⟨rfl, first.here⟩
    · refine .inr ⟨first.leftmost place (Nat.le_refl _) less, first.here,
        Place.next_le_of_lt behind_eq less, ?_⟩
      intro earlier least
      exact first.leftmost earlier (by omega)
  · rintro (⟨rfl, here⟩ | ⟨none, first⟩)
    · exact firstAt_here here
    · refine ⟨first.here, by have := first.behindStart; omega, ?_⟩
      intro earlier least less
      rcases Nat.eq_or_lt_of_le least with same | later
      · obtain rfl := Place.eq_of_offset_eq same.symm
        exact none
      · exact first.leftmost earlier (Place.next_le_of_lt behind_eq later) less

/-- What holds at all places from one on holds there and from the next on. -/
theorem forall_behind_iff {property : Place text → Prop} {character : Char}
    {rest : List Char} (behind_eq : place.behind = character :: rest) :
    (∀ other : Place text, place.offset ≤ other.offset → property other) ↔
      property place ∧ ∀ other : Place text,
        (place.next behind_eq).offset ≤ other.offset → property other := by
  have onward := Place.offset_lt_next behind_eq
  constructor
  · intro all
    exact ⟨all place (Nat.le_refl _), fun other least => all other (by omega)⟩
  · rintro ⟨here, all⟩ other least
    rcases Nat.eq_or_lt_of_le least with same | later
    · obtain rfl := Place.eq_of_offset_eq same.symm
      exact here
    · exact all other (Place.next_le_of_lt behind_eq later)

end First

/-- The name found is the wanted one, up to the case of ASCII letters, and the
text ends behind it or goes on with a character that may end a name. -/
def Found.Suits (found : Found) (wanted : String) (ends : Char → Bool) : Prop :=
  Text.sameLetters (String.ofList found.name) wanted = true ∧
    Ended ends found.rest

theorem Found.accepts_iff (found : Found) (wanted : String)
    (ends : Char → Bool) :
    found.accepts wanted ends = true ↔ found.Suits wanted ends := by
  unfold Found.accepts Found.Suits
  cases found.rest with
  | nil => simp [ended_nil]
  | cons next rest => simp [Ended, and_comm]

/-- What a pattern finds at a place of a text. -/
def Place.found? {text : String} (pattern : Pattern) (place : Place text) :
    Option Found :=
  pattern place.before.isEmpty place.behind

/-- What a pattern finds at a place of a text, if it is accepted there. -/
def Place.accepted? {text : String} (pattern : Pattern) (wanted : String)
    (ends : Char → Bool) (place : Place text) : Option Found :=
  (place.found? pattern).filter (·.accepts wanted ends)

section Search

variable {text : String} (pattern : Pattern) (wanted : String)
  (ends : Char → Bool)

theorem Place.accepted?_eq_some_iff (place : Place text) (found : Found) :
    place.accepted? pattern wanted ends = some found ↔
      place.found? pattern = some found ∧ found.Suits wanted ends := by
  rw [accepted?, Option.filter_eq_some_iff, Found.accepts_iff]

theorem Place.accepted?_eq_none_iff (place : Place text) :
    place.accepted? pattern wanted ends = none ↔
      ∀ found, place.found? pattern = some found →
        ¬ found.Suits wanted ends := by
  simp only [Option.eq_none_iff_forall_ne_some, ne_eq,
    accepted?_eq_some_iff, not_and]

theorem Place.isEmpty_before_next (place : Place text) {character : Char}
    {rest : List Char} (behind_eq : place.behind = character :: rest) :
    (place.next behind_eq).before.isEmpty = false := by
  simp [next]

/-- What is found first from a place on, and where. -/
theorem firstFound_eq_some_iff (place : Place text) (found : Found)
    (rest : List Char) :
    firstFound pattern place.before.isEmpty place.behind = some (found, rest) ↔
      ∃ hit : Place text,
        FirstAt (Place.found? pattern) place.offset hit found ∧
          hit.behind = rest := by
  -- The place moves on with the text, so the induction is on what is behind it.
  induction behind_eq : place.behind generalizing place with
  | nil =>
      have here : firstFound pattern place.before.isEmpty [] =
          (place.found? pattern).map (·, []) := by
        rw [Place.found?, behind_eq]
        rfl
      rw [here]
      cases found_eq : place.found? pattern with
      | none => simp [firstAt_iff_of_nil behind_eq, found_eq]
      | some other =>
          simp [firstAt_iff_of_nil behind_eq, found_eq, behind_eq, and_assoc,
            eq_comm]
  | cons character behind ih =>
      have later := ih (place.next behind_eq) rfl
      rw [Place.isEmpty_before_next] at later
      have here : pattern place.before.isEmpty (character :: behind) =
          place.found? pattern := by
        rw [Place.found?, behind_eq]
      rw [firstFound, here]
      cases found_eq : place.found? pattern with
      | none => simpa [firstAt_iff_of_cons behind_eq, found_eq] using later
      | some other =>
          simp [firstAt_iff_of_cons behind_eq, found_eq, behind_eq, and_assoc]

/-- The search from a place on. -/
def Place.search (place : Place text) : Option Found :=
  findNamed pattern wanted ends place.before.isEmpty place.behind

section Steps

variable {place : Place text}

theorem Place.search_of_nil (behind_eq : place.behind = []) :
    place.search pattern wanted ends = place.accepted? pattern wanted ends := by
  rw [search, accepted?, found?, behind_eq, findNamed_nil]

theorem Place.search_of_cons {character : Char} {rest : List Char}
    (behind_eq : place.behind = character :: rest) :
    place.search pattern wanted ends =
      (place.accepted? pattern wanted ends).or
        ((place.next behind_eq).search pattern wanted ends) := by
  rw [search, accepted?, found?, search, isEmpty_before_next, behind_eq,
    findNamed_cons]
  rfl

end Steps

/-- A search ends with what is accepted first from its place on. -/
theorem Place.search_eq_some_iff (place : Place text) (found : Found) :
    place.search pattern wanted ends = some found ↔
      ∃ hit : Place text,
        FirstAt (Place.accepted? pattern wanted ends) place.offset hit
          found := by
  induction behind_eq : place.behind generalizing place with
  | nil => simp [search_of_nil _ _ _ behind_eq, firstAt_iff_of_nil behind_eq]
  | cons character behind ih =>
      have later := ih (place.next behind_eq) rfl
      rw [search_of_cons _ _ _ behind_eq]
      cases found_eq : place.accepted? pattern wanted ends with
      | none => simpa [firstAt_iff_of_cons behind_eq, found_eq] using later
      | some other => simp [firstAt_iff_of_cons behind_eq, found_eq]

/-- A search ends with nothing when nothing is accepted from its place on. -/
theorem Place.search_eq_none_iff (place : Place text) :
    place.search pattern wanted ends = none ↔
      ∀ hit : Place text, place.offset ≤ hit.offset →
        hit.accepted? pattern wanted ends = none := by
  induction behind_eq : place.behind generalizing place with
  | nil =>
      rw [search_of_nil _ _ _ behind_eq]
      constructor
      · intro none hit least
        rwa [eq_of_behind_eq_nil behind_eq least]
      · exact fun all => all place (Nat.le_refl _)
  | cons character behind ih =>
      rw [search_of_cons _ _ _ behind_eq, Option.or_eq_none_iff, ih _ rfl,
        forall_behind_iff behind_eq]

end Search

section Restarts

variable (pattern : Pattern) (wanted : String) (ends : Char → Bool)
  (text : String)

/-- What is found first from an offset on is refused, and the search goes on
behind the first character of that place. -/
inductive Restarts (start : Nat) : Nat → Prop
  | behind {hit : Place text} {found : Found} {character : Char}
      {rest : List Char}
      (first : FirstAt (Place.found? pattern) start hit found)
      (refused : ¬ found.Suits wanted ends)
      (behind_eq : hit.behind = character :: rest) :
      Restarts start (hit.offset + character.utf8Size)

/-- A search ends when nothing is found from an offset on, when what is found
first is accepted, or when the text is over where it is refused. -/
inductive Answers (start : Nat) : Option Found → Prop
  | nothing
      (none : ∀ (hit : Place text) (found : Found),
        ¬ FirstAt (Place.found? pattern) start hit found) :
      Answers start .none
  | accepted {hit : Place text} {found : Found}
      (first : FirstAt (Place.found? pattern) start hit found)
      (suits : found.Suits wanted ends) :
      Answers start (some found)
  | atEnd {hit : Place text} {found : Found}
      (first : FirstAt (Place.found? pattern) start hit found)
      (refused : ¬ found.Suits wanted ends)
      (behind_eq : hit.behind = []) :
      Answers start .none

/-- A search from an offset: the offsets from which it goes on, and its
answer. -/
inductive Runs : Nat → List Nat → Option Found → Prop
  | stop {start : Nat} {answer : Option Found}
      (answers : Answers pattern wanted ends text start answer) :
      Runs start [] answer
  | goOn {start next : Nat} {restarts : List Nat} {answer : Option Found}
      (restart : Restarts pattern wanted ends text start next)
      (later : Runs next restarts answer) :
      Runs start (next :: restarts) answer

variable {pattern wanted ends text} {start next : Nat} {answer : Option Found}

/-- A search goes on further behind, and between two characters. -/
theorem Restarts.onward
    (restart : Restarts pattern wanted ends text start next) :
    start < next ∧ (⟨next⟩ : String.Pos.Raw).IsValid text := by
  obtain ⟨first, -, behind_eq⟩ := restart
  have further := Place.offset_lt_next behind_eq
  rw [Place.offset_next] at further
  refine ⟨Nat.lt_of_le_of_lt first.behindStart further, ?_⟩
  exact (Place.exists_offset_eq_iff _).mp
    ⟨Place.next _ behind_eq, Place.offset_next behind_eq⟩

theorem Restarts.unique (restart : Restarts pattern wanted ends text start next)
    {next' : Nat} (restart' : Restarts pattern wanted ends text start next') :
    next' = next := by
  obtain ⟨first, -, behind_eq⟩ := restart
  obtain ⟨first', -, behind_eq'⟩ := restart'
  obtain ⟨rfl, -⟩ := first.unique first'
  obtain ⟨rfl, -⟩ := List.cons.inj (behind_eq.symm.trans behind_eq')
  rfl

/-- A search that goes on has no answer yet. -/
theorem Restarts.not_answers
    (restart : Restarts pattern wanted ends text start next) :
    ¬ Answers pattern wanted ends text start answer := by
  obtain ⟨first, refused, behind_eq⟩ := restart
  intro answers
  -- Both look at the same first place, and disagree on what it holds.
  cases answers with
  | nothing none => exact none _ _ first
  | accepted first' suits =>
      obtain ⟨-, rfl⟩ := first.unique first'
      exact refused suits
  | atEnd first' _ behind_eq' =>
      obtain ⟨rfl, -⟩ := first.unique first'
      exact nomatch behind_eq.symm.trans behind_eq'

/-- A search has its answer, or it goes on from a place with less behind it. -/
theorem Place.search_step (place : Place text) :
    Answers pattern wanted ends text place.offset
        (place.search pattern wanted ends) ∨
      ∃ next : Place text,
        Restarts pattern wanted ends text place.offset next.offset ∧
          next.behind.length < place.behind.length ∧
          place.search pattern wanted ends =
            next.search pattern wanted ends := by
  have first_iff := firstFound_eq_some_iff pattern place
  have accepts_iff := fun found : Found => found.accepts_iff wanted ends
  rw [search, findNamed_eq]
  split
  next none_found =>
    refine .inl (.nothing fun hit found first => ?_)
    have found_first := (first_iff found _).mpr ⟨hit, first, rfl⟩
    exact nomatch none_found.symm.trans found_first
  next found found_first =>
    obtain ⟨hit, first, behind_eq⟩ := (first_iff found _).mp found_first
    left
    split
    next accepted => exact .accepted first ((accepts_iff found).mp accepted)
    next refused =>
      exact .atEnd first (mt (accepts_iff found).mpr refused) behind_eq
  next found character rest found_first =>
    obtain ⟨hit, first, behind_eq⟩ := (first_iff found _).mp found_first
    split
    next accepted =>
      exact .inl (.accepted first ((accepts_iff found).mp accepted))
    next refused =>
      right
      refine ⟨hit.next behind_eq, ?_, length_of_firstFound found_first, ?_⟩
      · rw [offset_next]
        exact .behind first (mt (accepts_iff found).mpr refused) behind_eq
      · rw [search, isEmpty_before_next]
        rfl

/-- A search goes on at most once for every character behind its place. -/
theorem Place.exists_runs (place : Place text) :
    ∃ restarts, restarts.length ≤ place.behind.length ∧
      Runs pattern wanted ends text place.offset restarts
        (place.search pattern wanted ends) := by
  induction left_eq : place.behind.length using Nat.strong_induction_on
    generalizing place with
  | _ left ih =>
      rcases place.search_step with answers | ⟨next, restart, shorter, same⟩
      · exact ⟨[], Nat.zero_le _, .stop answers⟩
      · obtain ⟨restarts, few, later⟩ := ih _ (left_eq ▸ shorter) next rfl
        rw [same]
        refine ⟨next.offset :: restarts, ?_, .goOn restart later⟩
        rw [List.length_cons]
        omega

end Restarts

/-- Whatever is to be found at the places of a text, a pattern finds it. -/
theorem exists_pattern {text : String} (finds : Place text → Option Found) :
    ∃ pattern : Pattern, Place.found? pattern = finds := by
  classical
  refine ⟨fun _ behind =>
    if there : ∃ place : Place text, place.behind = behind then
      finds there.choose
    else none, funext fun place => ?_⟩
  have there : ∃ other : Place text, other.behind = place.behind :=
    ⟨place, rfl⟩
  rw [Place.found?, dif_pos there, Place.eq_of_behind_eq there.choose_spec]

/-- A search that finds something finds it at the first place where something
is accepted, and one that finds nothing has no such place.  It comes to its
answer by going on finitely often, always further behind. -/
structure Leftmost (pattern : Pattern) (wanted : String) (ends : Char → Bool)
    (text : String) (answer : Option Found) : Prop where
  some_iff : ∀ found, answer = some found ↔
    ∃ place : Place text, place.found? pattern = some found ∧
      found.Suits wanted ends ∧
      ∀ earlier : Place text, earlier.offset < place.offset →
        ∀ other, earlier.found? pattern = some other →
          ¬ other.Suits wanted ends
  none_iff : answer = none ↔
    ∀ (place : Place text) (found : Found),
      place.found? pattern = some found → ¬ found.Suits wanted ends
  runs : ∃ restarts, restarts.length ≤ text.length ∧
    Runs pattern wanted ends text 0 restarts answer
  single : ∀ start next, Restarts pattern wanted ends text start next →
    (∀ next', Restarts pattern wanted ends text start next' → next' = next) ∧
      ∀ other, ¬ Answers pattern wanted ends text start other
  onward : ∀ start next, Restarts pattern wanted ends text start next →
    start < next ∧ (⟨next⟩ : String.Pos.Raw).IsValid text

/-- A search through a text is leftmost, for every pattern, and patterns can
find anything at the places of a text. -/
theorem findNamed_leftmost (text : String) :
    (∀ (pattern : Pattern) (wanted : String) (ends : Char → Bool),
      Leftmost pattern wanted ends text
        (findNamed pattern wanted ends true text.toList)) ∧
    ∀ finds : Place text → Option Found,
      ∃ pattern : Pattern, Place.found? pattern = finds := by
  refine ⟨fun pattern wanted ends => ?_, exists_pattern⟩
  change Leftmost pattern wanted ends text
    ((Place.first text).search pattern wanted ends)
  refine ⟨fun found => ?_, ?_, ?_, fun start next restart => ?_,
    fun start next restart => restart.onward⟩
  · rw [Place.search_eq_some_iff]
    refine exists_congr fun place => ⟨?_, ?_⟩
    · rintro ⟨here, -, leftmost⟩
      obtain ⟨finds, suits⟩ :=
        (place.accepted?_eq_some_iff pattern wanted ends found).mp here
      refine ⟨finds, suits, fun earlier less => ?_⟩
      exact (earlier.accepted?_eq_none_iff pattern wanted ends).mp
        (leftmost earlier (Nat.zero_le _) less)
    · rintro ⟨finds, suits, leftmost⟩
      refine ⟨(place.accepted?_eq_some_iff pattern wanted ends found).mpr
        ⟨finds, suits⟩, Nat.zero_le _, fun earlier _ less => ?_⟩
      exact (earlier.accepted?_eq_none_iff pattern wanted ends).mpr
        (leftmost earlier less)
  · rw [Place.search_eq_none_iff]
    refine forall_congr' fun place => ?_
    rw [Place.accepted?_eq_none_iff]
    exact ⟨fun none => none (Nat.zero_le _), fun refused _ => refused⟩
  · obtain ⟨restarts, few, runs⟩ := (Place.first text).exists_runs
    exact ⟨restarts, few.trans_eq String.length_toList, runs⟩
  · exact ⟨fun _ => restart.unique, fun _ => restart.not_answers⟩

/-- An item is found whose place overlaps the one in front of it. -/
example : (findNamed qualified "name" (· == ',') true
    "u.id,u.name,u.status".toList).map Found.expression =
      some "u.name".toList := by
  decide +kernel

end DataGrid.Source
