import PostfixCalculator.Proofs.RoundTrip

/-!
# Where the tokens of a text stand

This module says which tokens a text has without reading it from left to right.
An operand stands where a run of digits or of small letters is that cannot be made
longer to either side, an operator stands where its symbol is, and nothing else is
a token. A reading lists what stands in a text, each token with its position and
one after the other. It is determined by the text.

The tokens of a text are those of its reading. So nothing but filler is left out,
and two neighbouring operands of one kind have filler between them.
-/

namespace PostfixCalculator

namespace Token

/-- What holds without characters, and goes on to hold when filler, a whole run or
an operator symbol is put in front, holds of all characters. -/
@[elab_as_elim]
theorem reading_induction
    {motive : List Char -> Prop}
    (characters : List Char)
    (nil : motive [])
    (filler : ∀ {first : Char} {rest : List Char},
      IsFiller first -> motive rest -> motive ([first] ++ rest))
    (run : ∀ {kind : RunKind} {lexeme : String} {rest : List Char}, kind.IsRun lexeme ->
      (∀ next ∈ rest.head?, kind.contains next = false) ->
      motive rest -> motive (lexeme.toList ++ rest))
    (symbol : ∀ (operator : Operator) {rest : List Char},
      motive rest -> motive (operator.text.toList ++ rest)) :
    motive characters := by
  fun_induction ofCharacters characters with
  | case1 => exact nil
  | case2 first rest kind starts inductionHypothesis =>
      obtain ⟨taken, kept, split, contained, stops⟩ := Cut.exists_cut rest kind.contains
      have keptEq := (Cut.takeWhile_dropWhile_append contained stops).2
      rw [split, keptEq] at inductionHypothesis
      have isRun : kind.IsRun (String.ofList (first :: taken)) :=
        RunKind.isRun_ofList_cons (RunKind.ofChar?_eq_some_iff.mp starts) contained
      have whole := run isRun stops inductionHypothesis
      rwa [String.toList_ofList, List.cons_append, ← split] at whole
  | case3 first rest noRun operator recognized inductionHypothesis =>
      have whole := symbol operator inductionHypothesis
      rwa [Operator.toList_text, Operator.symbol_of_ofChar? recognized] at whole
  | case4 first rest noRun unrecognized inductionHypothesis =>
      exact filler ⟨noRun, unrecognized⟩ inductionHypothesis

/-- Written one after the other, the tokens are the characters without filler. -/
theorem flatMap_text_ofCharacters (characters : List Char) :
    (ofCharacters characters).flatMap (fun token => token.text.toList) =
      characters.filter fun character => ¬IsFiller character := by
  induction characters using reading_induction with
  | nil => rw [ofCharacters]; rfl
  | @filler first rest skipped inductionHypothesis =>
      rw [ofCharacters_filler_append (by simpa [AllFiller] using skipped), inductionHypothesis]
      simp [skipped]
  | @run kind lexeme rest isRun stops inductionHypothesis =>
      have kept : lexeme.toList.filter (fun character => ¬IsFiller character) =
          lexeme.toList := by
        rw [List.filter_eq_self]
        intro character present
        exact decide_eq_true (RunKind.not_isFiller_of_contains (isRun.2 character present))
      rw [ofCharacters_run_append isRun stops, List.flatMap_cons, inductionHypothesis,
        List.filter_append, kept, text_operand]
  | symbol operator inductionHypothesis =>
      rw [ofCharacters_symbol_append, List.flatMap_cons, inductionHypothesis]
      simp [operator.not_isFiller_symbol]

/-! ## What stands at a position -/

/-- A token stands at a position of some characters: an operand as a run that does
not go on to either side, an operator as its symbol. -/
inductive StandsAt (characters : List Char) (position : Nat) : Token -> Prop
  | operand {kind : RunKind} {lexeme : String} (before behind : List Char)
      (isRun : kind.IsRun lexeme)
      (split : characters = before ++ lexeme.toList ++ behind)
      (place : before.length = position)
      (starts : ∀ last ∈ before.getLast?, kind.contains last = false)
      (stops : ∀ next ∈ behind.head?, kind.contains next = false) :
      StandsAt characters position (.operand lexeme)
  | operator {symbol : Operator} (before behind : List Char)
      (split : characters = before ++ symbol.text.toList ++ behind)
      (place : before.length = position) :
      StandsAt characters position (.operator symbol)

variable {characters first second : List Char} {position : Nat} {token : Token}

/-- No run goes on from some characters to those after them. -/
def Apart (first second : List Char) : Prop :=
  ∀ last ∈ first.getLast?, ∀ next ∈ second.head?, ∀ kind : RunKind,
    kind.contains last = true -> kind.contains next = false

/-- What stands in the first of two parts stands in the whole. -/
theorem StandsAt.append_right
    (stands : StandsAt first position token)
    (apart : Apart first second) :
    StandsAt (first ++ second) position token := by
  cases stands with
  | @operator symbol before behind split place =>
      exact .operator before (behind ++ second) (by simp [split]) place
  | @operand kind lexeme before behind isRun split place starts stops =>
      refine .operand before (behind ++ second) isRun (by simp [split]) place starts ?_
      cases behind with
      | cons next others => exact stops
      | nil =>
          intro next isNext
          obtain ⟨last, present, isLast⟩ := Cut.exists_getLast?_append isRun.1 before
          rw [split, List.append_nil] at apart
          exact apart last isLast next isNext kind (isRun.2 last present)

/-- What stands in the second of two parts stands in the whole. -/
theorem StandsAt.append_left
    (stands : StandsAt second position token)
    (apart : Apart first second) :
    StandsAt (first ++ second) (first.length + position) token := by
  cases stands with
  | @operator symbol before behind split place =>
      exact .operator (first ++ before) behind (by simp [split]) (by simp [place])
  | @operand kind lexeme before behind isRun split place starts stops =>
      refine .operand (first ++ before) behind isRun (by simp [split]) (by simp [place]) ?_ stops
      cases before with
      | cons other others => simpa using starts
      | nil =>
          intro last isLast
          obtain ⟨next, present, isNext⟩ := Cut.exists_head?_append isRun.1 behind
          rw [split, List.nil_append] at apart
          rw [List.append_nil] at isLast
          rw [Bool.eq_false_iff]
          intro contained
          have notContained := apart last isLast next isNext kind contained
          rw [isRun.2 next present] at notContained
          contradiction

/-- What stands in the whole stands in one of two parts. -/
theorem standsAt_append_iff (apart : Apart first second) :
    StandsAt (first ++ second) position token ↔
      StandsAt first position token ∨
        ∃ offset, position = first.length + offset ∧ StandsAt second offset token := by
  constructor
  · intro stands
    cases stands with
    | @operator symbol before behind split place =>
        rcases Cut.append_eq_append_append_cases split with
          ⟨rest, inFirst, -⟩ | ⟨lead, rfl, inSecond⟩ |
            ⟨left, right, leftCut, rightCut, cut, -, -⟩
        · exact Or.inl (.operator before rest inFirst place)
        · exact Or.inr ⟨lead.length, by simp [← place], .operator lead behind inSecond rfl⟩
        · -- A symbol is a single character, which cannot be cut.
          have long := congrArg List.length cut
          have leftLong := List.length_pos_of_ne_nil leftCut
          have rightLong := List.length_pos_of_ne_nil rightCut
          rw [Operator.toList_text, List.length_singleton, List.length_append] at long
          omega
    | @operand kind lexeme before behind isRun split place starts stops =>
        rcases Cut.append_eq_append_append_cases split with
          ⟨rest, inFirst, rfl⟩ | ⟨lead, rfl, inSecond⟩ |
            ⟨left, right, leftCut, rightCut, cut, rfl, rfl⟩
        · refine Or.inl (.operand before rest isRun inFirst place starts ?_)
          exact fun next isNext => stops next (List.mem_head?_append_of_mem_head? isNext)
        · refine Or.inr ⟨lead.length, by simp [← place],
            .operand lead behind isRun inSecond rfl ?_ stops⟩
          exact fun last isLast => starts last (List.mem_getLast?_append_of_mem_getLast? isLast)
        · -- A run that is cut goes on from the first part to the second.
          obtain ⟨last, inLeft, isLast⟩ := Cut.exists_getLast?_append leftCut before
          obtain ⟨next, inRight, isNext⟩ := Cut.exists_head?_append rightCut behind
          have contained : ∀ character ∈ left ++ right, kind.contains character = true :=
            cut ▸ isRun.2
          have notContained := apart last isLast next isNext kind
            (contained last (List.mem_append_left right inLeft))
          rw [contained next (List.mem_append_right left inRight)] at notContained
          contradiction
  · rintro (inFirst | ⟨offset, rfl, inSecond⟩)
    · exact inFirst.append_right apart
    · exact inSecond.append_left apart

/-- Filler is no token. -/
theorem not_standsAt_of_isFiller
    {character : Char}
    (skipped : IsFiller character) :
    ¬StandsAt [character] position token := by
  intro stands
  cases stands with
  | @operator symbol before behind split place =>
      have present : symbol.symbol ∈ [character] := by simp [split]
      rw [List.mem_singleton] at present
      exact symbol.not_isFiller_symbol (present ▸ skipped)
  | @operand kind lexeme before behind isRun split place starts stops =>
      obtain ⟨first, others, cut, contained⟩ := isRun.exists_cons
      have present : first ∈ [character] := by simp [split, cut]
      rw [List.mem_singleton] at present
      exact RunKind.not_isFiller_of_contains contained (present ▸ skipped)

/-- An operator symbol is nothing but an operator. -/
theorem standsAt_symbol_iff {operator : Operator} :
    StandsAt operator.text.toList position token ↔
      position = 0 ∧ token = .operator operator := by
  constructor
  · intro stands
    cases stands with
    | @operator symbol before behind split place =>
        rw [Operator.toList_text, Operator.toList_text] at split
        cases before with
        | cons first others => simp at split
        | nil =>
            obtain ⟨same, -⟩ := List.cons.inj split
            exact ⟨place.symm, congrArg Token.operator (Operator.symbol_inj.mp same.symm)⟩
    | @operand kind lexeme before behind isRun split place starts stops =>
        obtain ⟨first, others, cut, contained⟩ := isRun.exists_cons
        have present : first ∈ [operator.symbol] := by
          simp [← Operator.toList_text, split, cut]
        rw [List.mem_singleton.mp present, kind.contains_symbol] at contained
        contradiction
  · rintro ⟨rfl, rfl⟩
    exact .operator [] [] (by simp) rfl

/-- A run is nothing but an operand. -/
theorem standsAt_run_iff
    {kind : RunKind}
    {lexeme : String}
    (isRun : kind.IsRun lexeme) :
    StandsAt lexeme.toList position token ↔ position = 0 ∧ token = .operand lexeme := by
  constructor
  · intro stands
    cases stands with
    | @operator symbol before behind split place =>
        have contained := isRun.2 symbol.symbol (by simp [split])
        rw [kind.contains_symbol] at contained
        contradiction
    | @operand other found before behind otherRun split place starts stops =>
        obtain ⟨first, others, cut, contained⟩ := otherRun.exists_cons
        obtain rfl := RunKind.eq_of_contains contained (isRun.2 first (by simp [split, cut]))
        have beforeEmpty : before = [] := by
          by_contra nonempty
          obtain ⟨last, present, isLast⟩ := Cut.exists_getLast?_append nonempty []
          have outside := starts last isLast
          rw [isRun.2 last (by simp [split, present])] at outside
          contradiction
        have behindEmpty : behind = [] := by
          by_contra nonempty
          obtain ⟨next, present, isNext⟩ := Cut.exists_head?_append nonempty []
          rw [List.append_nil] at isNext
          have outside := stops next isNext
          rw [isRun.2 next (by simp [split, present])] at outside
          contradiction
        subst beforeEmpty behindEmpty
        rw [List.nil_append, List.append_nil, String.toList_inj] at split
        exact ⟨place.symm, congrArg Token.operand split.symm⟩
  · rintro ⟨rfl, rfl⟩
    exact .operand [] [] isRun (by simp) rfl nofun nofun

/-! ## Readings -/

/-- A token with the position at which it starts. -/
structure Place where
  position : Nat
  token : Token
  deriving DecidableEq, Repr

namespace Place

/-- The position after a token. -/
def stop (place : Place) : Nat :=
  place.position + place.token.text.toList.length

/-- A place as it is counted from further left. -/
def shift (distance : Nat) (place : Place) : Place :=
  ⟨distance + place.position, place.token⟩

@[simp] theorem token_shift (distance : Nat) (place : Place) :
    (place.shift distance).token = place.token := rfl

theorem stop_shift (distance : Nat) (place : Place) :
    (place.shift distance).stop = distance + place.stop :=
  Nat.add_assoc _ _ _

/-- Places are the same after a shift if and only if they were before. -/
theorem mem_map_shift_iff {place : Place} {distance : Nat} {places : List Place} :
    place ∈ places.map (shift distance) ↔
      ∃ offset, place.position = distance + offset ∧ ⟨offset, place.token⟩ ∈ places := by
  rw [List.mem_map]
  constructor
  · rintro ⟨other, present, rfl⟩
    exact ⟨other.position, rfl, present⟩
  · rintro ⟨offset, shifted, present⟩
    refine ⟨⟨offset, place.token⟩, present, ?_⟩
    rw [shift, ← shifted]

end Place

/-- A list holds exactly the tokens that stand in some characters, from left to
right. -/
structure IsReading (characters : List Char) (places : List Place) : Prop where
  complete : ∀ place, place ∈ places ↔ place.token.StandsAt characters place.position
  ordered : places.Pairwise fun first second => first.stop ≤ second.position

/-- A token that stands in some characters is there in full. -/
theorem StandsAt.exists_split (stands : StandsAt characters position token) :
    ∃ before behind, characters = before ++ token.text.toList ++ behind ∧
      before.length = position ∧ 0 < token.text.toList.length := by
  cases stands with
  | operator before behind split place =>
      exact ⟨before, behind, split, place, by simp⟩
  | operand before behind isRun split place starts stops =>
      exact ⟨before, behind, split, place, List.length_pos_of_ne_nil isRun.1⟩

namespace IsReading

variable {places others : List Place}

/-- A token of a reading starts before it stops, and stops in the text. -/
theorem position_lt_stop
    (reading : IsReading characters places)
    {place : Place}
    (present : place ∈ places) :
    place.position < place.stop ∧ place.stop ≤ characters.length := by
  obtain ⟨before, behind, split, placed, nonempty⟩ :=
    ((reading.complete place).mp present).exists_split
  rw [Place.stop, split, List.length_append, List.length_append]
  omega

/-- Characters have at most one reading. -/
theorem unique
    (reading : IsReading characters places)
    (otherReading : IsReading characters others) :
    places = others := by
  have distinct : ∀ {listed : List Place}, IsReading characters listed -> listed.Nodup := by
    intro listed listedReading
    refine listedReading.ordered.imp_of_mem ?_
    intro first second firstPresent _ stops same
    have starts := (listedReading.position_lt_stop firstPresent).1
    rw [same] at stops starts
    exact absurd (Nat.lt_of_lt_of_le starts stops) (Nat.lt_irrefl _)
  have perm : places.Perm others := by
    rw [List.perm_ext_iff_of_nodup (distinct reading) (distinct otherReading)]
    intro place
    rw [reading.complete, otherReading.complete]
  refine List.Perm.eq_of_pairwise ?_ reading.ordered otherReading.ordered perm
  intro left right leftPresent rightPresent leftStops rightStops
  have leftStarts := (reading.position_lt_stop leftPresent).1
  have rightStarts := (otherReading.position_lt_stop rightPresent).1
  omega

/-- The reading of two parts. -/
theorem append
    (reading : IsReading first places)
    (otherReading : IsReading second others)
    (apart : Apart first second) :
    IsReading (first ++ second) (places ++ others.map (Place.shift first.length)) where
  complete place := by
    rw [List.mem_append, reading.complete, Place.mem_map_shift_iff, standsAt_append_iff apart]
    simp only [otherReading.complete]
  ordered := by
    rw [List.pairwise_append, List.pairwise_map]
    refine ⟨reading.ordered, ?_, ?_⟩
    · refine otherReading.ordered.imp ?_
      intro left right stops
      rw [Place.stop_shift]
      exact Nat.add_le_add_left stops _
    · intro left leftPresent right rightPresent
      obtain ⟨offset, shifted, -⟩ := Place.mem_map_shift_iff.mp rightPresent
      rw [shifted]
      exact Nat.le_add_right_of_le (reading.position_lt_stop leftPresent).2

/-- Where nothing stands, the reading is empty. -/
theorem empty (nothing : ∀ position token, ¬StandsAt characters position token) :
    IsReading characters [] where
  complete _ := iff_of_false List.not_mem_nil (nothing _ _)
  ordered := List.Pairwise.nil

/-- Where only one token stands, and at the start, the reading is this token. -/
theorem singleton
    (alone : ∀ position other,
      StandsAt characters position other ↔ position = 0 ∧ other = token) :
    IsReading characters [⟨0, token⟩] where
  complete place := by
    rw [alone, List.mem_singleton, Place.mk.injEq]
  ordered := List.pairwise_singleton _ _

end IsReading

/-- Nothing stands in no characters. -/
theorem not_standsAt_nil : ¬StandsAt [] position token := by
  intro stands
  obtain ⟨before, behind, split, -, nonempty⟩ := stands.exists_split
  have whole := congrArg List.length split
  rw [List.length_append, List.length_append, List.length_nil] at whole
  omega

/-- A character that is of no kind ends every run. -/
theorem apart_of_ofChar?_eq_none
    {last : Char}
    (noRun : RunKind.ofChar? last = none)
    (second : List Char) :
    Apart [last] second := by
  intro other isLast next _ kind contained
  cases isLast
  rw [List.getLast_singleton, RunKind.contains_eq_false noRun] at contained
  contradiction

/-- What ends with a run is apart from what does not go on with it. -/
theorem apart_of_isRun
    {kind : RunKind}
    {lexeme : String}
    (isRun : kind.IsRun lexeme)
    (before : List Char)
    (stops : ∀ next ∈ second.head?, kind.contains next = false) :
    Apart (before ++ lexeme.toList) second := by
  intro last isLast next isNext other contained
  obtain ⟨found, present, isFound⟩ := Cut.exists_getLast?_append isRun.1 before
  cases isLast.symm.trans isFound
  rw [RunKind.eq_of_contains contained (isRun.2 last present)]
  exact stops next isNext

/-- All characters have a reading, and its tokens are theirs. -/
theorem exists_isReading (characters : List Char) :
    ∃ places, IsReading characters places ∧
      places.map Place.token = ofCharacters characters := by
  induction characters using reading_induction with
  | nil =>
      refine ⟨[], .empty fun _ _ => not_standsAt_nil, ?_⟩
      rw [ofCharacters]
      rfl
  | @filler first rest skipped inductionHypothesis =>
      obtain ⟨places, reading, tokens⟩ := inductionHypothesis
      have nothing : IsReading [first] [] :=
        .empty fun _ _ => not_standsAt_of_isFiller skipped
      refine ⟨_, nothing.append reading (apart_of_ofChar?_eq_none skipped.1 rest), ?_⟩
      rw [ofCharacters_filler_append (by simpa [AllFiller] using skipped), ← tokens]
      simp
  | @run kind lexeme rest isRun stops inductionHypothesis =>
      obtain ⟨places, reading, tokens⟩ := inductionHypothesis
      have operand := IsReading.singleton fun _ _ => standsAt_run_iff isRun
      refine ⟨_, operand.append reading (apart_of_isRun isRun [] stops), ?_⟩
      rw [ofCharacters_run_append isRun stops, ← tokens]
      simp
  | @symbol operator rest inductionHypothesis =>
      obtain ⟨places, reading, tokens⟩ := inductionHypothesis
      have symbol := IsReading.singleton fun _ _ => @standsAt_symbol_iff _ _ operator
      have apart : Apart operator.text.toList rest := by
        rw [Operator.toList_text]
        exact apart_of_ofChar?_eq_none (RunKind.ofChar?_symbol operator) rest
      refine ⟨_, symbol.append reading apart, ?_⟩
      rw [ofCharacters_symbol_append, ← tokens]
      simp

/-! ## Neighbours in a reading -/

/-- A character that is no filler, and that no run goes on with, starts a token. -/
theorem exists_standsAt
    {before rest : List Char}
    {next : Char}
    (notFiller : ¬IsFiller next)
    (apart : Apart before (next :: rest)) :
    ∃ token, StandsAt (before ++ next :: rest) before.length token := by
  cases starts : RunKind.ofChar? next with
  | some kind =>
      have contained := RunKind.ofChar?_eq_some_iff.mp starts
      obtain ⟨taken, kept, rfl, takenContained, stops⟩ := Cut.exists_cut rest kind.contains
      have isRun : kind.IsRun (String.ofList (next :: taken)) :=
        RunKind.isRun_ofList_cons contained takenContained
      refine ⟨_, .operand before kept isRun (by simp) rfl ?_ stops⟩
      intro last isLast
      rw [Bool.eq_false_iff]
      intro lastContained
      rw [apart last isLast next rfl kind lastContained] at contained
      contradiction
  | none =>
      cases recognized : Operator.ofChar? next with
      | none => exact absurd ⟨starts, recognized⟩ notFiller
      | some operator =>
          refine ⟨.operator operator, .operator before rest ?_ rfl⟩
          rw [Operator.toList_text, Operator.symbol_of_ofChar? recognized]
          simp

/-- A run that stands in a text is followed by nothing that it could go on with. -/
theorem StandsAt.exists_apart
    {lexeme : String}
    (stands : StandsAt characters position (.operand lexeme)) :
    ∃ before behind, characters = before ++ lexeme.toList ++ behind ∧
      before.length = position ∧ Apart (before ++ lexeme.toList) behind := by
  cases stands with
  | @operand found _ before behind foundRun split place starts stops =>
      exact ⟨before, behind, split, place, apart_of_isRun foundRun before stops⟩

namespace IsReading

variable {places : List Place}

/-- No token starts between two neighbours. -/
theorem not_between
    (reading : IsReading characters places)
    {left right place : Place}
    (neighbours : [left, right] <:+: places)
    (present : place ∈ places)
    (after : left.stop ≤ place.position) :
    right.position ≤ place.position := by
  have leftPresent : left ∈ places := neighbours.mem List.mem_cons_self
  have rightPresent : right ∈ places :=
    neighbours.mem (List.mem_cons_of_mem _ List.mem_cons_self)
  have leftStarts := (reading.position_lt_stop leftPresent).1
  have rightStarts := (reading.position_lt_stop rightPresent).1
  have starts := (reading.position_lt_stop present).1
  have ordered := reading.ordered
  obtain ⟨before, behind, rfl⟩ := neighbours
  simp only [List.append_assoc, List.cons_append, List.nil_append, List.pairwise_append,
    List.pairwise_cons] at ordered
  obtain ⟨-, ⟨-, rightFirst, -⟩, beforeFirst⟩ := ordered
  simp only [List.append_assoc, List.cons_append, List.nil_append, List.mem_append,
    List.mem_cons] at present
  rcases present with inBefore | rfl | rfl | inBehind
  · have earlier := beforeFirst place inBefore left List.mem_cons_self
    omega
  · omega
  · exact Nat.le_refl _
  · have later := rightFirst place inBehind
    omega

/-- Between neighbouring operands of one kind there is filler. -/
theorem exists_filler_between
    (reading : IsReading characters places)
    {kind : RunKind}
    {lexeme other : String}
    {position next : Nat}
    (neighbours : [⟨position, .operand lexeme⟩, ⟨next, .operand other⟩] <:+: places)
    (isRun : kind.IsRun lexeme)
    (otherRun : kind.IsRun other) :
    ∃ skipped character, position + lexeme.toList.length ≤ skipped ∧ skipped < next ∧
      characters[skipped]? = some character ∧ IsFiller character := by
  have leftStands := (reading.complete _).mp (neighbours.mem List.mem_cons_self)
  have rightStands := (reading.complete _).mp
    (neighbours.mem (List.mem_cons_of_mem _ List.mem_cons_self))
  have leftFirst : position + lexeme.toList.length ≤ next :=
    (List.pairwise_cons.mp (reading.ordered.sublist neighbours.sublist)).1 _
      List.mem_cons_self
  obtain ⟨before, behind, rfl, rfl, apart⟩ := leftStands.exists_apart
  obtain ⟨lead, after, split, rfl, nonempty⟩ := rightStands.exists_split
  rw [← List.length_append] at leftFirst ⊢
  rcases Cut.append_eq_append_append_cases split with
    ⟨rest, inLeft, -⟩ | ⟨gap, rfl, rfl⟩ | ⟨left, right, leftCut, -, -, inLeft, -⟩
  · have longer := congrArg List.length inLeft
    simp only [List.length_append] at longer leftFirst nonempty
    omega
  · cases gap with
    | nil =>
        -- Without a gap the first run would go on.
        obtain ⟨last, inRun, isLast⟩ := Cut.exists_getLast?_append isRun.1 before
        obtain ⟨first, inOther, isFirst⟩ := Cut.exists_head?_append otherRun.1 after
        have contained := otherRun.2 first inOther
        rw [apart last isLast first isFirst kind (isRun.2 last inRun)] at contained
        contradiction
    | cons skipped rest =>
        refine ⟨(before ++ lexeme.toList).length, skipped, Nat.le_refl _, ?_, ?_, ?_⟩
        · simp
        · simp
        · by_contra notFiller
          obtain ⟨token, stands⟩ := exists_standsAt notFiller apart
          have present := (reading.complete ⟨_, token⟩).mpr stands
          have notBetween := reading.not_between neighbours present (by simp [Place.stop])
          simp only [List.length_append, List.length_cons] at notBetween
          omega
  · have longer := congrArg List.length inLeft
    have leftLong := List.length_pos_of_ne_nil leftCut
    simp only [List.length_append] at longer leftFirst
    omega

end IsReading

/-- The tokens of a text are those of its one reading, and they are found in one
pass. Neighbouring operands of one kind have filler between them. Written one after
the other, the tokens are the text without its filler, and each of them is a piece
of the text. -/
theorem ofText_eq_tokens_of_reading (text : String) :
    ofText text = ofCharacters text.toList ∧
    (∃ places, (∀ listed, IsReading text.toList listed ↔ listed = places) ∧
      places.map Place.token = ofText text ∧
      ∀ (kind : RunKind) (lexeme other : String) (position next : Nat),
        [⟨position, .operand lexeme⟩, ⟨next, .operand other⟩] <:+: places ->
          kind.IsRun lexeme -> kind.IsRun other ->
            ∃ skipped character, position + lexeme.toList.length ≤ skipped ∧ skipped < next ∧
              text.toList[skipped]? = some character ∧ IsFiller character) ∧
    String.join ((ofText text).map Token.text) =
      String.ofList (text.toList.filter fun character => ¬IsFiller character) ∧
    ∀ token ∈ ofText text, token.IsLexical ∧ token.text.toList <:+: text.toList := by
  obtain ⟨places, reading, tokens⟩ := exists_isReading text.toList
  rw [← ofText_eq_ofCharacters] at tokens
  refine ⟨ofText_eq_ofCharacters text, ⟨places, ?_, tokens, ?_⟩, ?_, ?_⟩
  · intro listed
    exact ⟨fun listedReading => listedReading.unique reading, fun same => same ▸ reading⟩
  · intro kind lexeme other position next neighbours isRun otherRun
    exact reading.exists_filler_between neighbours isRun otherRun
  · rw [← String.toList_inj, String.toList_join, List.flatMap_map, String.toList_ofList,
      ofText_eq_ofCharacters, flatMap_text_ofCharacters]
  · intro token present
    refine ⟨isLexical_of_mem_ofText present, ?_⟩
    rw [← tokens, List.mem_map] at present
    obtain ⟨place, listed, rfl⟩ := present
    obtain ⟨before, behind, split, -, -⟩ := ((reading.complete place).mp listed).exists_split
    exact ⟨before, behind, split.symm⟩

end Token
end PostfixCalculator
