import ClusterLifecycle.Proofs.QuotedScalars
import ClusterLifecycle.Yaml.Token

/-!
How a text between brackets becomes tokens. No key has to be where it may be there, so a candidate is kept or
given up without any harm.
-/

namespace ClusterLifecycle.Yaml

open Scan

/-- A reader gives a value if `ok` holds, and nothing if it does not. -/
def Gives {α : Type} (ok : Prop) (value : α) (found : Option α) : Prop :=
  (ok → found = some value) ∧ (¬ ok → found = none)

section Gives

variable {α β : Type} {ok okay : Prop} {value : α} {result : β} {found : Option α}

theorem gives_some (value : α) : Gives True value (some value) :=
  ⟨fun _ => rfl, fun refused => absurd trivial refused⟩

theorem gives_none (value : α) : Gives False value none :=
  ⟨False.elim, fun _ => rfl⟩

theorem Gives.congr (gives : Gives ok value found) (same : ok ↔ okay) : Gives okay value found := by
  rwa [← same]

theorem Gives.bind {next : α → Option β} (gives : Gives ok value found) (later : Gives okay result (next value)) :
    Gives (ok ∧ okay) result (found.bind next) := by
  constructor
  · rintro ⟨fine, well⟩
    rw [gives.1 fine]
    exact later.1 well
  · intro refused
    by_cases fine : ok
    · rw [gives.1 fine]
      exact later.2 fun well => refused ⟨fine, well⟩
    · rw [gives.2 fine]
      rfl

theorem Gives.map (gives : Gives ok value found) (next : α → β) : Gives ok (next value) (found.map next) := by
  rw [Option.map_eq_bind]
  exact (gives.bind (gives_some (next value))).congr (by simp)

end Gives

/-! ### Fronts -/

/-- What is left between brackets behind blanks, breaks and comments. -/
def ahead (rest : List Place) : List Place :=
  (separation true true false rest).2

theorem separation_flow (allowed comment : Bool) (rest : List Place) :
    separation true allowed comment rest = (allowed, (separation true true comment rest).2) := by
  induction rest generalizing allowed comment with
  | nil => rfl
  | cons p rest ih =>
    rw [separation, separation]
    simp only [Bool.not_true, Bool.or_false, Bool.true_or, Bool.and_true]
    split_ifs
    · exact ih _ _
    · exact ih _ _
    · exact ih _ _
    · rfl

def IsFront (c : Char) : Prop :=
  IsVisible c ∧ c ≠ '#'

instance : DecidablePred IsFront :=
  fun c => inferInstanceAs (Decidable (IsVisible c ∧ c ≠ '#'))

section Ahead

variable (here : Cursor) (text : List Char)

theorem IsFront.places {c : Char} (front : IsFront c) :
    here.places (c :: text) = ⟨c, here.index, here.line, here.column⟩ :: (here.past c).places text := by
  rw [here.places_cons (front.1.ne (by decide)), Cursor.place, front.1.taken]

theorem ahead_front {c : Char} (front : IsFront c) : ahead (here.places (c :: text)) = here.places (c :: text) := by
  rw [front.places, ahead, separation]
  simp [Place.isOrderMark, front.1.unbroken, front.2, front.1.ne (d := ' ') (by decide),
    front.1.ne (d := '\t') (by decide), front.1.ne (d := '\uFEFF') (by decide)]

theorem ahead_white {white : List Char} (blank : ∀ c ∈ white, c = ' ' ∨ c = '\n') :
    ahead (here.places (white ++ text)) = ahead ((here.after white).places text) := by
  induction white generalizing here with
  | nil => rfl
  | cons c white ih =>
    obtain ⟨first, blank⟩ := List.forall_mem_cons.1 blank
    rw [List.cons_append, here.places_cons (by rcases first with rfl | rfl <;> decide)]
    refine Eq.trans ?_ (ih (here.past c) blank)
    rcases first with rfl | rfl <;> rfl

end Ahead

/-! ### Stages -/

/-- Where a reader stands between brackets: whether a key may start for sure, how many brackets are open around the
innermost one, the tokens so far and what is left. -/
structure Stage where
  keys : Bool
  depth : Nat
  tokens : List Token
  rest : List Place

def Optional (candidate : Option Candidate) : Prop :=
  ∀ found ∈ candidate, found.required = false

structure Scan.Stands (scan : Scan) (stage : Stage) : Prop where
  depth : scan.outer.length = stage.depth + 1
  columns : scan.columns = []
  own : Optional scan.candidate
  outer : ∀ candidate ∈ scan.outer, Optional candidate
  keys : stage.keys = true → scan.keyAllowed = true
  tokens : scan.tokens.reverse = stage.tokens
  rest : ahead scan.rest = ahead stage.rest

def fresh (p : Place) (candidate : Option Candidate) : Option Candidate :=
  candidate.filter fun found => !isStale p found

theorem refresh_eq {p : Place} {candidate : Option Candidate} (optional : Optional candidate) :
    refresh p candidate = some (fresh p candidate) := by
  cases candidate with
  | none => rfl
  | some found =>
    rw [refresh, fresh, Option.filter_some, optional found rfl]
    cases isStale p found <;> rfl

theorem Optional.fresh {candidate : Option Candidate} (optional : Optional candidate) (p : Place) :
    Optional (fresh p candidate) :=
  fun found member => optional found (Option.mem_filter_iff.1 member).1

namespace Scan

variable {scan : Scan} {stage : Stage}

def turned (scan : Scan) (p : Place) (rest : List Place) : Scan :=
  { scan with rest := p :: rest, candidate := fresh p scan.candidate, outer := scan.outer.map (fresh p) }

theorem Stands.inFlow (stands : scan.Stands stage) : scan.inFlow = true := by
  have some := stands.depth
  cases outer : scan.outer with
  | nil => simp [outer] at some
  | cons candidate more => simp [Scan.inFlow, outer]

theorem Stands.turned (stands : scan.Stands stage) {p : Place} {rest : List Place}
    (next : stage.rest = p :: rest) : (scan.turned p rest).Stands stage where
  depth := (List.length_map _).trans stands.depth
  columns := stands.columns
  own := stands.own.fresh p
  outer := by
    intro candidate member
    obtain ⟨found, listed, rfl⟩ := List.mem_map.1 member
    exact (stands.outer found listed).fresh p
  keys := stands.keys
  tokens := stands.tokens
  rest := congrArg ahead next.symm

theorem Stands.tokens_cons (stands : scan.Stands stage) (token : Token) :
    (token :: scan.tokens).reverse = stage.tokens ++ [token] := by
  rw [List.reverse_cons, stands.tokens]

theorem refreshAll_eq {p : Place} (own : Optional scan.candidate)
    (outer : ∀ candidate ∈ scan.outer, Optional candidate) :
    scan.refreshAll p =
      some { scan with candidate := fresh p scan.candidate, outer := scan.outer.map (fresh p) } := by
  have all : ∀ outer : List (Option Candidate), (∀ candidate ∈ outer, Optional candidate) →
      outer.mapM (refresh p) = some (outer.map (fresh p)) := by
    intro outer optional
    induction outer with
    | nil => rfl
    | cons candidate outer ih =>
      obtain ⟨first, optional⟩ := List.forall_mem_cons.1 optional
      rw [List.mapM_cons, refresh_eq first, ih optional]
      rfl
  rw [refreshAll, refresh_eq own, all _ outer]
  rfl

theorem Stands.finish (stands : scan.Stands stage) {p : Place} {rest : List Place} (next : stage.rest = p :: rest)
    (front : ahead stage.rest = stage.rest) (fuel : Nat) :
    scan.finish (fuel + 1) = ((scan.turned p rest).token p).bind (Scan.finish fuel) := by
  have reached : scan.toToken = { scan with rest := p :: rest } := by
    have left := stands.rest
    rw [front, next, ahead] at left
    rw [toToken, stands.inFlow, separation_flow]
    simp only [left]
  have unrolled : ∀ found : Scan, found.inFlow = true → found.unroll p.column = found :=
    fun found flow => if_pos flow
  have flow := (stands.turned next).inFlow
  have refreshed : { scan with rest := p :: rest }.refreshAll p = some (scan.turned p rest) :=
    refreshAll_eq stands.own stands.outer
  rw [Scan.finish, reached]
  simp only [refreshed, Option.bind_eq_bind, Option.bind_some, unrolled _ flow]

theorem dropCandidate_eq (own : Optional scan.candidate) :
    scan.dropCandidate = some { scan with candidate := none } := by
  unfold dropCandidate
  split
  next found same =>
    rw [own found same]
    rfl
  next same => rw [← same]

theorem saveCandidate_eq (own : Optional scan.candidate) (flow : scan.inFlow = true) (allowed : scan.keyAllowed = true)
    (p : Place) : scan.saveCandidate p =
      some { scan with candidate := some ⟨p.index, p.line, p.column, scan.tokens.length, false⟩ } := by
  have inside : { scan with candidate := none }.inFlow = true := flow
  rw [saveCandidate, if_pos allowed, dropCandidate_eq own]
  simp only [Option.bind_eq_bind, Option.bind_some, inside, Bool.not_true, Bool.false_and]

/-- A key may start between brackets without any harm. -/
theorem Stands.save (stands : scan.Stands stage) (p : Place) :
    ∃ saved : Scan, scan.saveCandidate p = some saved ∧ saved.Stands stage ∧ saved.rest = scan.rest := by
  by_cases allowed : scan.keyAllowed = true
  · refine ⟨_, saveCandidate_eq stands.own stands.inFlow allowed p, ?_, rfl⟩
    have optional : Optional (some ⟨p.index, p.line, p.column, scan.tokens.length, false⟩) := by
      rintro found ⟨⟩
      rfl
    exact { stands with own := optional }
  · exact ⟨scan, if_neg allowed, stands, rfl⟩

end Scan

/-! ### Leading from stage to stage -/

/-- In at most so many rounds every reader at one stage comes to another one; where `ok` fails, it gives up. -/
def Leads (count : Nat) (start : Stage) (ok : Prop) (goal : Stage) : Prop :=
  ∀ scan : Scan, scan.Stands start → ∃ n ≤ count,
    (ok ∧ ∃ found : Scan, found.Stands goal ∧ ∀ fuel, scan.finish (fuel + n) = found.finish fuel) ∨
      (¬ ok ∧ ∀ fuel, scan.finish (fuel + n) = none)

section Leads

variable {count more depth : Nat} {start middle goal : Stage} {ok okay : Prop} {keys : Bool} {tokens : List Token}

theorem Leads.trans (first : Leads count start ok middle) (second : Leads more middle okay goal) :
    Leads (count + more) start (ok ∧ okay) goal := by
  intro scan stands
  obtain ⟨n, few, ⟨fine, found, reached, same⟩ | ⟨refused, none⟩⟩ := first scan stands
  · obtain ⟨m, fewer, later⟩ := second found reached
    have through : ∀ fuel, scan.finish (fuel + (m + n)) = found.finish (fuel + m) := by
      intro fuel
      rw [← Nat.add_assoc, same]
    refine ⟨m + n, by omega, ?_⟩
    rcases later with ⟨well, last, arrived, alike⟩ | ⟨refused, none⟩
    · exact .inl ⟨⟨fine, well⟩, last, arrived, fun fuel => (through fuel).trans (alike fuel)⟩
    · exact .inr ⟨fun both => refused both.2, fun fuel => (through fuel).trans (none fuel)⟩
  · exact ⟨n, by omega, .inr ⟨fun both => refused both.1, none⟩⟩

theorem Leads.mono (leads : Leads count start ok goal) (fewer : count ≤ more) (same : ok ↔ okay) :
    Leads more start okay goal := by
  intro scan stands
  obtain ⟨n, few, found⟩ := leads scan stands
  rw [same] at found
  exact ⟨n, by omega, found⟩

theorem leads_of_token {p : Place} {rest : List Place} (next : start.rest = p :: rest)
    (front : ahead start.rest = start.rest)
    (step : ∀ scan : Scan, scan.Stands start → scan.rest = p :: rest →
      (ok ∧ ∃ found : Scan, scan.token p = some found ∧ found.Stands goal) ∨ (¬ ok ∧ scan.token p = none)) :
    Leads 1 start ok goal := by
  intro scan stands
  refine ⟨1, Nat.le_refl 1, ?_⟩
  rcases step _ (stands.turned next) rfl with ⟨fine, found, token, reached⟩ | ⟨refused, none⟩
  · exact .inl ⟨fine, found, reached, fun fuel => by rw [stands.finish next front, token, Option.bind_some]⟩
  · exact .inr ⟨refused, fun fuel => by rw [stands.finish next front, none, Option.bind_none]⟩

end Leads

/-- A piece of text that adds tokens where it stands before certain texts, in no more rounds than it has characters.
Where `ok` fails, it cannot be read. -/
def Adds (keys : Bool) (piece : List Char) (ok : Prop) (added : List Token) (left : Bool)
    (before : List Char → Prop) : Prop :=
  ∀ (depth : Nat) (tokens : List Token) (here : Cursor) (text : List Char), before text →
    Leads piece.length ⟨keys, depth, tokens, here.places (piece ++ text)⟩ ok
      ⟨left, depth, tokens ++ added, (here.after piece).places text⟩

def Anything (_ : List Char) : Prop := True

section Adds

variable {keys left last : Bool} {piece other white : List Char} {ok okay : Prop} {added further : List Token}
  {before beyond : List Char → Prop}

theorem adds_nil : Adds keys [] True [] keys Anything := by
  intro depth tokens here text _ scan stands
  rw [List.append_nil]
  exact ⟨0, Nat.le_refl 0, .inl ⟨trivial, scan, stands, fun _ => rfl⟩⟩

theorem Adds.append (first : Adds keys piece ok added left before) (second : Adds left other okay further last beyond)
    (fits : ∀ text, beyond text → before (other ++ text)) :
    Adds keys (piece ++ other) (ok ∧ okay) (added ++ further) last beyond := by
  intro depth tokens here text follows
  have leads := (first depth tokens here (other ++ text) (fits text follows)).trans
    (second depth (tokens ++ added) (here.after piece) text follows)
  rwa [List.append_assoc, List.length_append, ← List.append_assoc tokens, here.after_append]

theorem Adds.behind (blank : ∀ c ∈ white, c = ' ' ∨ c = '\n') (adds : Adds keys piece ok added left before) :
    Adds keys (white ++ piece) ok added left before := by
  intro depth tokens here text follows scan stands
  have rest : ahead scan.rest = ahead ((here.after white).places (piece ++ text)) := by
    rw [stands.rest, List.append_assoc]
    exact ahead_white here (piece ++ text) blank
  obtain ⟨n, few, found⟩ := adds depth tokens (here.after white) text follows scan { stands with rest }
  rw [here.after_append]
  refine ⟨n, ?_, found⟩
  rw [List.length_append]
  omega

theorem Adds.padded (adds : Adds keys piece ok added left before) (blank : ∀ c ∈ white, c = ' ' ∨ c = '\n') :
    Adds keys (piece ++ white) ok added left fun text => before (white ++ text) := by
  intro depth tokens here text follows scan stands
  rw [List.append_assoc] at stands
  obtain ⟨n, few, either⟩ := adds depth tokens here (white ++ text) follows scan stands
  refine ⟨n, ?_, either.imp_left ?_⟩
  · rw [List.length_append]
    omega
  · rintro ⟨fine, found, reached, same⟩
    have rest := reached.rest
    rw [ahead_white _ _ blank, ← here.after_append] at rest
    exact ⟨fine, found, { reached with rest }, same⟩

theorem Adds.anywhere (adds : Adds keys piece ok added left Anything) : Adds keys piece ok added left before :=
  fun depth tokens here text _ => adds depth tokens here text trivial

theorem Adds.congr (adds : Adds keys piece ok added left before) (same : ok ↔ okay) :
    Adds keys piece okay added left before := by
  rwa [← same]

end Adds

/-! ### Brackets and separators -/

theorem isMarker_of_ne {mark : Char} {p : Place} (other : p.char ≠ mark) (rest : List Place) :
    isMarker mark (p :: rest) = false := by
  unfold isMarker
  split
  next a b c more same =>
    obtain ⟨rfl, -⟩ := List.cons.inj same
    simp [other]
  · rfl

theorem isMarker_of_second {mark : Char} {q : Place} (other : q.char ≠ mark) (p : Place) (rest : List Place) :
    isMarker mark (p :: q :: rest) = false := by
  unfold isMarker
  split
  next a b c more same =>
    obtain ⟨-, second⟩ := List.cons.inj same
    obtain ⟨rfl, -⟩ := List.cons.inj second
    simp [other]
  · rfl

section Steps

variable {c : Char} {token : Token} {keys : Bool} {depth : Nat} {tokens : List Token} (here : Cursor) (text : List Char)

def Opens (c : Char) (token : Token) : Prop :=
  c = '[' ∧ token = .openFlowSequence ∨ c = '{' ∧ token = .openFlowMapping

theorem Opens.front (opens : Opens c token) : IsFront c := by
  rcases opens with ⟨rfl, -⟩ | ⟨rfl, -⟩ <;> decide

theorem leads_open (opens : Opens c token) :
    Leads 1 ⟨keys, depth, tokens, here.places (c :: text)⟩ True
      ⟨true, depth + 1, tokens ++ [token], (here.past c).places text⟩ := by
  have front := opens.front
  refine leads_of_token (front.places here text) (ahead_front here text front) fun scan stands left =>
    .inl ⟨trivial, ?_⟩
  obtain ⟨saved, same, known, still⟩ := stands.save ⟨c, here.index, here.line, here.column⟩
  have dispatched : scan.token ⟨c, here.index, here.line, here.column⟩ =
      scan.openFlow ⟨c, here.index, here.line, here.column⟩ token := by
    rcases opens with ⟨rfl, rfl⟩ | ⟨rfl, rfl⟩ <;> simp [Scan.token, left, isMarker_of_ne]
  refine ⟨_, by rw [dispatched, openFlow, same]; rfl, ?_⟩
  constructor
  · exact congrArg Nat.succ known.depth
  · exact known.columns
  · exact nofun
  · exact List.forall_mem_cons.2 ⟨known.own, known.outer⟩
  · exact fun _ => rfl
  · exact known.tokens_cons token
  · exact congrArg (fun rest => ahead (rest.drop 1)) (still.trans left)

theorem adds_separator (keys : Bool) : Adds keys [','] True [.separator] true Anything := by
  intro depth tokens here text _
  have front : IsFront ',' := by decide
  refine leads_of_token (front.places here text) (ahead_front here text front) fun scan stands left =>
    .inl ⟨trivial, ?_⟩
  have dispatched : scan.token ⟨',', here.index, here.line, here.column⟩ = scan.separator := by
    simp [Scan.token, left, isMarker_of_ne]
  refine ⟨_, by rw [dispatched, separator, dropCandidate_eq stands.own]; rfl, ?_⟩
  exact { stands with
    own := nofun
    keys := fun _ => rfl
    tokens := stands.tokens_cons .separator
    rest := congrArg (fun rest => ahead (rest.drop 1)) left }

def Closes (c : Char) (token : Token) : Prop :=
  c = ']' ∧ token = .closeFlowSequence ∨ c = '}' ∧ token = .closeFlowMapping

theorem Closes.front (closes : Closes c token) : IsFront c := by
  rcases closes with ⟨rfl, -⟩ | ⟨rfl, -⟩ <;> decide

variable {here text}

theorem token_close (closes : Closes c token) {scan : Scan} {stage : Stage} (stands : scan.Stands stage)
    (left : scan.rest = here.places (c :: text)) :
    ∃ candidate outer, scan.outer = candidate :: outer ∧ outer.length = stage.depth ∧
      scan.token ⟨c, here.index, here.line, here.column⟩ =
        some ({ scan with candidate, outer, keyAllowed := false }.skip 1 |>.emit token) := by
  have dispatched : scan.token ⟨c, here.index, here.line, here.column⟩ = scan.closeFlow token := by
    rw [closes.front.places] at left
    rcases closes with ⟨rfl, rfl⟩ | ⟨rfl, rfl⟩ <;> simp [Scan.token, left, isMarker_of_ne]
  obtain ⟨candidate, outer, known⟩ := List.exists_cons_of_length_eq_add_one stands.depth
  have remaining : outer.length = stage.depth := by
    have all := stands.depth
    rw [known, List.length_cons] at all
    exact Nat.succ.inj all
  refine ⟨candidate, outer, known, remaining, ?_⟩
  rw [dispatched, closeFlow, dropCandidate_eq stands.own]
  simp only [known]
  rfl

theorem leads_close (closes : Closes c token) (here : Cursor) (text : List Char) :
    Leads 1 ⟨keys, depth + 1, tokens, here.places (c :: text)⟩ True
      ⟨false, depth, tokens ++ [token], (here.past c).places text⟩ := by
  refine leads_of_token (closes.front.places here text) (ahead_front here text closes.front)
    fun scan stands left => .inl ⟨trivial, ?_⟩
  rw [← closes.front.places] at left
  obtain ⟨candidate, outer, known, remaining, found⟩ := token_close closes stands left
  have optional : ∀ other ∈ candidate :: outer, Optional other := known ▸ stands.outer
  refine ⟨_, found, ?_⟩
  constructor
  · exact remaining
  · exact stands.columns
  · exact optional candidate (by simp)
  · exact fun other member => optional other (List.mem_cons_of_mem _ member)
  · exact nofun
  · exact stands.tokens_cons token
  · rw [closes.front.places] at left
    exact congrArg (fun rest => ahead (rest.drop 1)) left

theorem adds_brackets {opening closing : Char} {opened closed : Token} {inside : List Char} {ok : Prop}
    {added : List Token} {left : Bool} {before : List Char → Prop} (opens : Opens opening opened)
    (closes : Closes closing closed) (adds : Adds true inside ok added left before)
    (fits : ∀ text, before (closing :: text)) :
    Adds keys (opening :: (inside ++ [closing])) ok (opened :: (added ++ [closed])) false Anything := by
  intro depth tokens here text _
  have within := adds (depth + 1) (tokens ++ [opened]) (here.past opening) (closing :: text) (fits text)
  have whole : Leads _ ⟨keys, depth, tokens, here.places (opening :: (inside ++ closing :: text))⟩ _ _ :=
    ((leads_open here _ opens).trans within).trans (leads_close closes ((here.past opening).after inside) text)
  have behind : here.after (opening :: (inside ++ [closing])) = ((here.past opening).after inside).past closing :=
    (here.past opening).after_append inside [closing]
  have same : tokens ++ [opened] ++ added ++ [closed] = tokens ++ opened :: (added ++ [closed]) := by simp
  rw [behind, ← same, List.cons_append, List.append_assoc]
  refine whole.mono ?_ (by simp)
  simp only [List.length_cons, List.length_append]
  omega

theorem finish_end {scan : Scan} (rest : scan.rest = []) (columns : scan.columns = []) (own : Optional scan.candidate)
    (fuel : Nat) : scan.finish (fuel + 1) = some scan.tokens.reverse := by
  obtain ⟨_, tokens, _, candidate, outer, allowed⟩ := scan
  dsimp only at rest columns own
  subst rest columns
  have reached : Scan.toToken ⟨[], tokens, [], candidate, outer, allowed⟩ =
      ⟨[], tokens, [], candidate, outer, allowed⟩ := rfl
  have unrolled : Scan.unrollAll ⟨[], tokens, [], candidate, outer, allowed⟩ =
      ⟨[], tokens, [], candidate, outer, allowed⟩ := ite_self _
  have dropped : Scan.dropCandidate ⟨[], tokens, [], candidate, outer, allowed⟩ =
      some ⟨[], tokens, [], none, outer, allowed⟩ := dropCandidate_eq own
  rw [Scan.finish, reached]
  simp only [unrolled, dropped, Option.bind_eq_bind, Option.bind_some]

theorem finish_close (closes : Closes c token) {scan : Scan}
    (stands : scan.Stands ⟨keys, 0, tokens, here.places [c]⟩) (fuel : Nat) :
    scan.finish (fuel + 2) = some (tokens ++ [token]) := by
  have next := closes.front.places here []
  have turned := stands.turned next
  obtain ⟨candidate, outer, known, remaining, found⟩ := token_close closes turned next.symm
  have own : Optional candidate := turned.outer candidate (by simp [known])
  have emitted := turned.tokens_cons token
  rw [stands.finish next (ahead_front here [] closes.front), found, Option.bind_some]
  refine (finish_end ?_ ?_ ?_ fuel).trans (congrArg Option.some emitted)
  · rfl
  · exact turned.columns
  · exact own

end Steps

/-! ### Whole texts -/

def origin : Cursor := ⟨0, 0, 0⟩

theorem finish_start {c : Char} {token : Token} (opens : Opens c token) (text : List Char) :
    ∃ found : Scan, found.Stands ⟨true, 0, [token], (origin.past c).places text⟩ ∧
      ∀ fuel, (Scan.start (origin.places (c :: text))).finish (fuel + 1) = found.finish fuel := by
  have front : IsFront c := opens.front
  have next : origin.places (c :: text) = ⟨c, 0, 0, 0⟩ :: (origin.past c).places text := front.places origin text
  have reached : (Scan.start (origin.places (c :: text))).toToken = Scan.start (origin.places (c :: text)) := by
    rw [next]
    rcases opens with ⟨rfl, -⟩ | ⟨rfl, -⟩ <;> rfl
  have opened : (Scan.start (origin.places (c :: text))).token ⟨c, 0, 0, 0⟩ =
      some ⟨(origin.past c).places text, [token], [], none, [some ⟨0, 0, 0, 0, false⟩], true⟩ := by
    have dispatched : (Scan.start (origin.places (c :: text))).token ⟨c, 0, 0, 0⟩ =
        (Scan.start (origin.places (c :: text))).openFlow ⟨c, 0, 0, 0⟩ token := by
      rw [next]
      rcases opens with ⟨rfl, rfl⟩ | ⟨rfl, rfl⟩ <;> simp [Scan.token, Scan.start, isMarker_of_ne]
    rw [dispatched, next]
    rfl
  have optional : Optional (some ⟨0, 0, 0, 0, false⟩) := by
    rintro found ⟨⟩
    rfl
  refine ⟨⟨(origin.past c).places text, [token], [], none, [some ⟨0, 0, 0, 0, false⟩], true⟩,
    ⟨rfl, rfl, nofun, List.forall_mem_singleton.2 optional, fun _ => rfl, rfl, rfl⟩, fun fuel => ?_⟩
  have unread : (Scan.start (origin.places (c :: text))).rest = origin.places (c :: text) := rfl
  rw [Scan.finish, reached]
  simp only [unread]
  rw [next] at opened ⊢
  exact congrArg (Option.bind · (Scan.finish fuel)) opened

theorem finish_brackets {opening closing : Char} {opened closed : Token} {inside : List Char} {ok : Prop}
    {added : List Token} {left : Bool} {before : List Char → Prop} (opens : Opens opening opened)
    (closes : Closes closing closed) (adds : Adds true inside ok added left before)
    (fits : before [closing]) {fuel : Nat} (enough : inside.length + 3 ≤ fuel) :
    Gives ok (opened :: (added ++ [closed]))
      ((Scan.start (origin.places (opening :: (inside ++ [closing])))).finish fuel) := by
  obtain ⟨fuel, rfl⟩ := Nat.exists_eq_add_of_le enough
  obtain ⟨found, stands, same⟩ := finish_start opens (inside ++ [closing])
  have one : inside.length + 3 + fuel = inside.length + fuel + 2 + 1 := by omega
  rw [one, same]
  obtain ⟨n, few, either⟩ := adds 0 [opened] (origin.past opening) [closing] fits found stands
  have behind : inside.length + fuel + 2 = inside.length - n + fuel + 2 + n := by omega
  rw [behind]
  rcases either with ⟨fine, last, reached, alike⟩ | ⟨refused, none⟩
  · rw [alike, finish_close closes reached]
    exact ⟨fun _ => rfl, fun refused => absurd fine refused⟩
  · rw [none]
    exact ⟨fun fine => absurd fine refused, fun _ => rfl⟩

end ClusterLifecycle.Yaml
