import Mathlib.Data.List.DropRight
import Mathlib.Data.List.Induction
set_option autoImplicit false

/-!
A history of successes and failures cut into episodes: an episode begins with a failure
and ends with a given number of successes in a row. Episodes are listed latest first, and
so are the results of an episode.
-/

namespace Episodes

variable {α : Type*}

structure Episode (ok : α → Bool) where
  onset : α
  later : List α
  failed : ok onset = false

variable {ok : α → Bool}

/-- The successes a list begins with. -/
def streak (ok : α → Bool) (rs : List α) : Nat := (rs.takeWhile ok).length

theorem streak_ok {r : α} {rs : List α} (h : ok r = true) :
    streak ok (r :: rs) = streak ok rs + 1 := by
  simp [streak,h]

theorem streak_fail {r : α} {rs : List α} (h : ok r = false) : streak ok (r :: rs) = 0 := by
  simp [streak,h]

namespace Episode

def closed (limit : Nat) (e : Episode ok) : Bool := limit ≤ streak ok e.later

def results (e : Episode ok) : List α := e.later ++ [e.onset]

def extend (e : Episode ok) (r : α) : Episode ok := { e with later := r :: e.later }

@[simp] theorem extend_onset (e : Episode ok) (r : α) : (e.extend r).onset = e.onset := rfl
@[simp] theorem extend_later (e : Episode ok) (r : α) : (e.extend r).later = r :: e.later := rfl
@[simp] theorem extend_results (e : Episode ok) (r : α) :
    (e.extend r).results = r :: e.results := rfl

end Episode

/-- A failure outside of an episode begins one; a success changes nothing. -/
def begin (es : List (Episode ok)) (r : α) : List (Episode ok) :=
  if h : ok r = false then ⟨r,[],h⟩ :: es else es

def add (limit : Nat) (es : List (Episode ok)) (r : α) : List (Episode ok) :=
  match es with
  | [] => begin [] r
  | e :: rest => if e.closed limit then begin (e :: rest) r else e.extend r :: rest

def episodes (ok : α → Bool) (limit : Nat) (rs : List α) : List (Episode ok) :=
  rs.foldl (add limit) []

/-- The latest episode is not closed yet. -/
def inEpisode (limit : Nat) : List (Episode ok) → Bool
  | [] => false
  | e :: _ => !e.closed limit

variable {limit : Nat} {es : List (Episode ok)} {e : Episode ok} {rs : List α} {r : α}

theorem episodes_snoc (rs : List α) (r : α) :
    episodes ok limit (rs ++ [r]) = add limit (episodes ok limit rs) r := by
  simp [episodes]

theorem begin_of_fail (h : ok r = false) : begin es r = ⟨r,[],h⟩ :: es := by
  simp [begin,h]

theorem begin_of_ok (h : ok r = true) : begin es r = es := by
  simp [begin,h]

theorem add_outside (h : inEpisode limit es = false) : add limit es r = begin es r := by
  cases es with
  | nil => rfl
  | cons e rest =>
    have hc : e.closed limit = true := by simpa [inEpisode] using h
    simp [add,hc]

theorem add_inside (h : inEpisode limit es = true) :
    ∃ e rest, es = e :: rest ∧ e.closed limit = false ∧ add limit es r = e.extend r :: rest := by
  cases es with
  | nil => simp [inEpisode] at h
  | cons e rest =>
    have hc : e.closed limit = false := by simpa [inEpisode] using h
    exact ⟨e,rest,rfl,hc,by simp [add,hc]⟩

theorem add_cases (limit : Nat) (es : List (Episode ok)) (r : α) :
    (inEpisode limit es = false ∧ ok r = true ∧ add limit es r = es) ∨
      (∃ h : ok r = false, inEpisode limit es = false ∧ add limit es r = ⟨r,[],h⟩ :: es) ∨
      ∃ e rest, es = e :: rest ∧ e.closed limit = false ∧ add limit es r = e.extend r :: rest := by
  cases hin : inEpisode limit es with
  | true => exact .inr (.inr (add_inside hin))
  | false =>
    rw [add_outside hin]
    by_cases hr : ok r = false
    · exact .inr (.inl ⟨hr,rfl,begin_of_fail hr⟩)
    · exact .inl ⟨rfl,by simpa using hr,begin_of_ok (by simpa using hr)⟩

theorem onsets_suffix (rs ss : List α) :
    (episodes ok limit rs).map Episode.onset <:+
      (episodes ok limit (rs ++ ss)).map Episode.onset := by
  induction ss using List.reverseRecOn with
  | nil => simp
  | append_singleton ss r ih =>
    rw [← List.append_assoc,episodes_snoc]
    refine ih.trans ?_
    rcases add_cases limit (episodes ok limit (rs ++ ss)) r with ⟨-,-,h⟩ | ⟨_,-,h⟩ | ⟨e,rest,he,-,h⟩
    · exact h.symm ▸ List.suffix_refl _
    · rw [h]; exact List.suffix_cons _ _
    · rw [h,he]; simp

theorem mem_of_mem_results (he : e ∈ episodes ok limit rs) (hr : r ∈ e.results) : r ∈ rs := by
  induction rs using List.reverseRecOn generalizing e with
  | nil => simp [episodes] at he
  | append_singleton rs s ih =>
    rw [episodes_snoc] at he
    rcases add_cases limit (episodes ok limit rs) s with ⟨-,-,h⟩ | ⟨_,-,h⟩ | ⟨e',rest,he',-,h⟩
    · rw [h] at he
      exact List.mem_append_left _ (ih he hr)
    · rw [h] at he
      rcases List.mem_cons.mp he with rfl | he
      · exact List.mem_append_right _ (by simpa [Episode.results] using hr)
      · exact List.mem_append_left _ (ih he hr)
    · rw [h] at he
      rcases List.mem_cons.mp he with rfl | he
      · rcases List.mem_cons.mp hr with rfl | hr
        · simp
        · exact List.mem_append_left _ (ih (by rw [he']; exact List.mem_cons_self) hr)
      · exact List.mem_append_left _ (ih (by rw [he']; exact List.mem_cons_of_mem _ he) hr)

theorem episodes_ne_nil (hr : r ∈ rs) (hf : ok r = false) : episodes ok limit rs ≠ [] := by
  induction rs using List.reverseRecOn with
  | nil => simp at hr
  | append_singleton rs s ih =>
    rw [episodes_snoc]
    rcases add_cases limit (episodes ok limit rs) s with ⟨-,hs,h⟩ | ⟨_,-,h⟩ | ⟨e,rest,-,-,h⟩ <;>
      rw [h]
    · rcases List.mem_append.mp hr with hr | hr
      · exact ih hr
      · obtain rfl := List.mem_singleton.mp hr
        rw [hf] at hs
        contradiction
    · exact List.cons_ne_nil _ _
    · exact List.cons_ne_nil _ _

/-- After the latest episode there are only successes, and none as long as it is open. -/
theorem latest_split {rest : List (Episode ok)} (h : episodes ok limit rs = e :: rest) :
    ∃ front idle, rs = front ++ e.results.reverse ++ idle ∧ (∀ r ∈ idle, ok r = true) ∧
      (e.closed limit = false → idle = []) := by
  induction rs using List.reverseRecOn generalizing e rest with
  | nil => simp [episodes] at h
  | append_singleton rs r ih =>
    rw [episodes_snoc] at h
    rcases add_cases limit (episodes ok limit rs) r with ⟨hin,hr,hadd⟩ | ⟨hr,-,hadd⟩ |
      ⟨e',rest',hes,hopen,hadd⟩
    · rw [hadd] at h
      rw [h] at hin
      have hclosed : e.closed limit = true := by simpa [inEpisode] using hin
      obtain ⟨front,idle,rfl,hidle,-⟩ := ih h
      refine ⟨front,idle ++ [r],by simp,fun r' hr' => ?_,by simp [hclosed]⟩
      rcases List.mem_append.mp hr' with hr' | hr'
      · exact hidle r' hr'
      · exact List.mem_singleton.mp hr' ▸ hr
    · obtain ⟨rfl,-⟩ := List.cons.inj (hadd.symm.trans h)
      exact ⟨rs,[],by simp [Episode.results],by simp,fun _ => rfl⟩
    · obtain ⟨rfl,-⟩ := List.cons.inj (hadd.symm.trans h)
      obtain ⟨front,idle,rfl,-,hidle⟩ := ih hes
      obtain rfl := hidle hopen
      exact ⟨front,[],by simp,by simp,fun _ => rfl⟩

/-- A history, latest first, ends with an episode: with just so many successes after a failure. -/
def endsEpisode (ok : α → Bool) (limit : Nat) (history : List α) : Bool :=
  streak ok history = limit && limit < history.length

/-- A history cut after every end of an episode; all lists are latest first, and the first part is
the one that goes on. -/
def parts (ok : α → Bool) (limit : Nat) : List α → List (List α)
  | [] => [[]]
  | r :: history =>
    match parts ok limit history with
    | [] => []
    | part :: rest =>
      if endsEpisode ok limit (r :: history) then [] :: (r :: part) :: rest
      else (r :: part) :: rest

/-- The parts with a failure, each from its first failure on. -/
def cutEpisodes (ok : α → Bool) (limit : Nat) (history : List α) : List (List α) :=
  ((parts ok limit history).map fun part => part.rdropWhile ok).filter fun e => e ≠ []

section Cut

variable {history : List α}

theorem streak_le_length (rs : List α) : streak ok rs ≤ rs.length :=
  (List.takeWhile_prefix ok).length_le

/-- How the successes at the end of a history compare with its episodes. -/
structure StreakAgrees (limit : Nat) (history : List α) (es : List (Episode ok)) : Prop where
  quiet : es = [] → streak ok history = history.length
  failed : es ≠ [] → streak ok history < history.length
  inside : ∀ e ∈ es.head?, e.closed limit = false → streak ok history = streak ok e.later
  outside : ∀ e ∈ es.head?, e.closed limit = true → limit ≤ streak ok history

theorem streakAgrees_cons (h : StreakAgrees limit history es) (r : α) :
    StreakAgrees limit (r :: history) (add limit es r) := by
  have hlength : streak ok history ≤ history.length := streak_le_length history
  rcases add_cases limit es r with ⟨hin,hr,hadd⟩ | ⟨hr,hin,hadd⟩ | ⟨e,rest,rfl,hc,hadd⟩
  · rw [hadd]
    refine ⟨fun he => ?_,fun he => ?_,fun e he hopen => ?_,fun e he hclosed => ?_⟩
    · rw [streak_ok hr,h.quiet he,List.length_cons]
    · rw [streak_ok hr,List.length_cons]
      exact Nat.succ_lt_succ (h.failed he)
    · cases es with
      | nil => contradiction
      | cons e' rest =>
        obtain rfl := Option.some.inj he
        simp [inEpisode,hopen] at hin
    · rw [streak_ok hr]
      exact Nat.le_succ_of_le (h.outside e he hclosed)
  · rw [hadd]
    refine ⟨by simp,fun _ => ?_,fun e he _ => ?_,fun e he hclosed => ?_⟩
    · rw [streak_fail hr]
      simp
    · obtain rfl := Option.some.inj he
      rw [streak_fail hr]
      rfl
    · obtain rfl := Option.some.inj he
      rw [streak_fail hr]
      simpa [Episode.closed,streak] using hclosed
  · rw [hadd]
    have hlt := h.failed (by simp)
    have hsame : streak ok (r :: history) = streak ok (r :: e.later) := by
      by_cases hr : ok r = true
      · rw [streak_ok hr,streak_ok hr,h.inside e rfl hc]
      · rw [streak_fail (by simpa using hr),streak_fail (by simpa using hr)]
    refine ⟨by simp,fun _ => ?_,fun e' he' _ => ?_,fun e' he' hclosed => ?_⟩
    · by_cases hr : ok r = true
      · rw [streak_ok hr,List.length_cons]
        exact Nat.succ_lt_succ hlt
      · rw [streak_fail (by simpa using hr)]
        simp
    · obtain rfl := Option.some.inj he'
      exact hsame
    · obtain rfl := Option.some.inj he'
      rw [hsame]
      exact of_decide_eq_true hclosed

theorem streakAgrees (limit : Nat) (history : List α) :
    StreakAgrees limit history (episodes ok limit history.reverse) := by
  induction history with
  | nil => constructor <;> simp [episodes,streak]
  | cons r history ih =>
    rw [List.reverse_cons,episodes_snoc]
    exact streakAgrees_cons ih r

theorem closed_of_outside (h : inEpisode limit es = false) (he : e ∈ es.head?) :
    e.closed limit = true := by
  cases es with
  | nil => contradiction
  | cons e' rest =>
    obtain rfl := Option.some.inj he
    simpa [inEpisode] using h

theorem endsEpisode_iff (hlimit : 0 < limit) (h : StreakAgrees limit history es) (r : α) :
    endsEpisode ok limit (r :: history) = true ↔
      ∃ e rest, es = e :: rest ∧ e.closed limit = false ∧ (e.extend r).closed limit = true := by
  simp only [endsEpisode,Bool.and_eq_true,decide_eq_true_eq,List.length_cons]
  rcases add_cases limit es r with ⟨hin,hr,-⟩ | ⟨hr,hin,-⟩ | ⟨e,rest,rfl,hc,-⟩
  · refine iff_of_false ?_ fun ⟨e,rest,he,hopen,_⟩ => ?_
    · rw [streak_ok hr]
      cases es with
      | nil =>
        have := h.quiet rfl
        omega
      | cons e rest =>
        have := h.outside e rfl (closed_of_outside hin rfl)
        omega
    · rw [closed_of_outside hin (by rw [he]; rfl)] at hopen
      contradiction
  · refine iff_of_false ?_ fun ⟨e,rest,he,hopen,_⟩ => ?_
    · rw [streak_fail hr]
      omega
    · rw [closed_of_outside hin (by rw [he]; rfl)] at hopen
      contradiction
  · have hinside := h.inside e rfl hc
    have hlt := h.failed (by simp)
    have hopen : streak ok e.later < limit := by simpa [Episode.closed] using hc
    have hclosed : (e.extend r).closed limit = true ↔ limit ≤ streak ok (r :: e.later) :=
      decide_eq_true_iff
    have hiff : streak ok (r :: history) = limit ∧ limit < history.length + 1 ↔
        limit ≤ streak ok (r :: e.later) := by
      by_cases hr : ok r = true
      · rw [streak_ok hr,streak_ok hr]
        omega
      · rw [streak_fail (by simpa using hr),streak_fail (by simpa using hr)]
        omega
    rw [hiff,← hclosed]
    constructor
    · intro hex
      exact ⟨e,rest,rfl,hc,hex⟩
    · rintro ⟨e',rest',heq,-,hex⟩
      rw [(List.cons.inj heq).1]
      exact hex

theorem rdropWhile_cons (p : α → Bool) (r : α) (rs : List α) :
    (r :: rs).rdropWhile p =
      if rs.rdropWhile p = [] then [r].rdropWhile p else r :: rs.rdropWhile p := by
  induction rs using List.reverseRecOn with
  | nil => simp
  | append_singleton rs x ih =>
    rw [← List.cons_append,List.rdropWhile_concat,List.rdropWhile_concat]
    by_cases hx : p x = true
    · simp only [hx,if_true,ih]
    · simp [hx]

/-- The part that goes on is the open episode, and the others are the closed ones. -/
structure PartsAgree (limit : Nat) (ps : List (List α)) (es : List (Episode ok)) : Prop where
  split : ∃ part rest, ps = part :: rest ∧
    part.rdropWhile ok = (if inEpisode limit es then es.head?.elim [] Episode.results else []) ∧
    ((rest.map fun part => part.rdropWhile ok).filter fun e => e ≠ []) =
      (if inEpisode limit es then es.tail else es).map Episode.results

theorem Episode.results_ne_nil (e : Episode ok) : e.results ≠ [] := by
  simp [Episode.results]

theorem partsAgree_cons (hlimit : 0 < limit) (hs : StreakAgrees limit history es)
    (h : PartsAgree limit (parts ok limit history) es) (r : α) :
    PartsAgree limit (parts ok limit (r :: history)) (add limit es r) := by
  obtain ⟨part,rest,hparts,hpart,hrest⟩ := h.split
  have hends := endsEpisode_iff hlimit hs r
  have hopen : inEpisode limit es = false → endsEpisode ok limit (r :: history) = false := by
    intro hin
    rw [Bool.eq_false_iff,ne_eq,hends]
    intro ⟨e,rest,he,hc,_⟩
    rw [closed_of_outside hin (by rw [he]; rfl)] at hc
    contradiction
  constructor
  simp only [parts,hparts]
  rcases add_cases limit es r with ⟨hin,hr,hadd⟩ | ⟨hr,hin,hadd⟩ | ⟨e,rest',rfl,hc,hadd⟩
  · rw [hin,if_neg Bool.false_ne_true] at hpart hrest
    rw [hadd,hin,hopen hin]
    refine ⟨_,_,rfl,?_,hrest⟩
    rw [rdropWhile_cons,if_pos hpart]
    simp [List.rdropWhile_singleton,hr]
  · rw [hin,if_neg Bool.false_ne_true] at hpart hrest
    have hin' : inEpisode limit (⟨r,[],hr⟩ :: es) = true := by
      simp [inEpisode,Episode.closed,streak,hlimit.ne']
    rw [hadd,hopen hin,hin']
    refine ⟨_,_,rfl,?_,hrest⟩
    rw [rdropWhile_cons,if_pos hpart]
    simp [List.rdropWhile_singleton,hr,Episode.results]
  · have hin : inEpisode limit (e :: rest') = true := by simp [inEpisode,hc]
    rw [hin,if_pos rfl] at hpart hrest
    have hpart' : (r :: part).rdropWhile ok = (e.extend r).results := by
      rw [rdropWhile_cons,hpart]
      exact if_neg e.results_ne_nil
    rw [hadd]
    cases hclosed : (e.extend r).closed limit with
    | true =>
      have hin' : inEpisode limit (e.extend r :: rest') = false := by simp [inEpisode,hclosed]
      rw [hends.mpr ⟨e,rest',rfl,hc,hclosed⟩,hin']
      refine ⟨_,_,rfl,rfl,?_⟩
      rw [List.map_cons,hpart',List.filter_cons_of_pos (by simp),hrest]
      rfl
    | false =>
      have hnot : endsEpisode ok limit (r :: history) = false := by
        rw [Bool.eq_false_iff,ne_eq,hends]
        rintro ⟨e',rest,heq,-,hex⟩
        rw [← (List.cons.inj heq).1,hclosed] at hex
        contradiction
      have hin' : inEpisode limit (e.extend r :: rest') = true := by simp [inEpisode,hclosed]
      rw [hnot,hin']
      exact ⟨_,_,rfl,hpart',hrest⟩

/-- The episodes are those that the history is cut into. -/
theorem cutEpisodes_eq (hlimit : 0 < limit) (history : List α) :
    cutEpisodes ok limit history =
      (episodes ok limit history.reverse).map Episode.results := by
  have h : PartsAgree limit (parts ok limit history) (episodes ok limit history.reverse) := by
    induction history with
    | nil => exact ⟨[],[],rfl,rfl,rfl⟩
    | cons r history ih =>
      rw [List.reverse_cons,episodes_snoc]
      exact partsAgree_cons hlimit (streakAgrees limit history) ih r
  obtain ⟨part,rest,hparts,hpart,hrest⟩ := h.split
  rw [cutEpisodes,hparts,List.map_cons,List.filter_cons,hrest,hpart]
  generalize episodes ok limit history.reverse = es
  cases es with
  | nil => rfl
  | cons e es =>
    cases hin : inEpisode limit (e :: es) with
    | true => simp [e.results_ne_nil]
    | false => simp

theorem inEpisode_iff (h : StreakAgrees limit history es) : inEpisode limit es = true ↔
    streak ok history < history.length ∧ streak ok history < limit := by
  cases es with
  | nil => simp [inEpisode,h.quiet rfl]
  | cons e rest =>
    have hlt := h.failed (List.cons_ne_nil e rest)
    cases hc : e.closed limit with
    | true => simp [inEpisode,hc,h.outside e rfl hc]
    | false =>
      have hstreak : streak ok e.later < limit := by simpa [Episode.closed] using hc
      rw [← h.inside e rfl hc] at hstreak
      simp [inEpisode,hc,hlt,hstreak]

theorem streak_eq_iff {n : Nat} : streak ok history = n ∧ n < history.length ↔
    ∃ later f earlier, history = later ++ f :: earlier ∧ ok f = false ∧
      (∀ r ∈ later, ok r = true) ∧ later.length = n := by
  constructor
  · intro ⟨hn,hlt⟩
    have hsplit := List.takeWhile_append_dropWhile (p := ok) (l := history)
    have hfirst := List.head?_dropWhile_not ok history
    cases hdrop : history.dropWhile ok with
    | nil =>
      rw [hdrop,List.append_nil] at hsplit
      rw [← hn,streak,hsplit] at hlt
      exact absurd hlt (Nat.lt_irrefl _)
    | cons f earlier =>
      rw [hdrop] at hsplit hfirst
      exact ⟨history.takeWhile ok,f,earlier,hsplit.symm,by simpa using hfirst,
        fun r hr => List.mem_takeWhile_imp hr,hn⟩
  · rintro ⟨later,f,earlier,rfl,hf,hlater,rfl⟩
    rw [streak,List.takeWhile_append_of_pos hlater,List.takeWhile_cons_of_neg (by simp [hf]),
      List.append_nil,List.length_append,List.length_cons]
    omega

theorem streak_le_limit (he : e ∈ episodes ok limit rs) : streak ok e.later ≤ limit := by
  induction rs using List.reverseRecOn generalizing e with
  | nil => simp [episodes] at he
  | append_singleton rs r ih =>
    rw [episodes_snoc] at he
    rcases add_cases limit (episodes ok limit rs) r with ⟨-,-,h⟩ | ⟨_,-,h⟩ | ⟨e',rest,hes,hc,h⟩
    · exact ih (h ▸ he)
    · rw [h] at he
      rcases List.mem_cons.mp he with rfl | he
      · exact Nat.zero_le limit
      · exact ih he
    · rw [h] at he
      rcases List.mem_cons.mp he with rfl | he
      · have hlt : streak ok e'.later < limit := by simpa [Episode.closed] using hc
        rw [Episode.extend_later]
        by_cases hr : ok r = true
        · rw [streak_ok hr]
          exact hlt
        · rw [streak_fail (by simpa using hr)]
          exact Nat.zero_le limit
      · exact ih (hes ▸ List.mem_cons_of_mem e' he)

theorem endsEpisode_results (he : e ∈ episodes ok limit rs) :
    endsEpisode ok limit e.results = e.closed limit := by
  have hle := streak_le_limit he
  have hlength : streak ok e.later ≤ e.later.length := streak_le_length e.later
  have hstreak : streak ok e.results = streak ok e.later := by
    rw [streak,Episode.results,List.takeWhile_append]
    split
    next h => simp [e.failed,streak,h]
    next => rfl
  rw [endsEpisode,hstreak,Episode.closed,Episode.results,List.length_append,List.length_singleton,
    Bool.eq_iff_iff,Bool.and_eq_true,decide_eq_true_eq,decide_eq_true_eq,decide_eq_true_eq]
  omega

end Cut

section Single

theorem episodes_of_ok (h : ∀ r ∈ rs, ok r = true) : episodes ok limit rs = [] := by
  induction rs using List.reverseRecOn with
  | nil => rfl
  | append_singleton rs r ih =>
    rw [episodes_snoc,ih fun s hs => h s (List.mem_append_left _ hs)]
    exact begin_of_ok (h r (by simp))

theorem inEpisode_of_failure (hlimit : 0 < limit) (hr : ok r = false) :
    inEpisode limit (episodes ok limit (rs ++ [r])) = true := by
  rw [episodes_snoc]
  rcases add_cases limit (episodes ok limit rs) r with ⟨-,hok,-⟩ | ⟨_,-,h⟩ | ⟨e,rest,-,-,h⟩
  · rw [hr] at hok
    contradiction
  · rw [h]
    simpa [inEpisode,Episode.closed,streak] using hlimit.ne'
  · rw [h]
    simpa [inEpisode,Episode.closed,streak_fail hr] using hlimit.ne'

theorem onsets_single {pre rest : List α} {f : α} (hlimit : 0 < limit)
    (hpre : ∀ r ∈ pre, ok r = true) (hf : ok f = false)
    (hrest : rest.Pairwise fun r s => ok s = false → ok r = false) :
    (episodes ok limit (pre ++ f :: rest)).map Episode.onset = [f] := by
  induction rest using List.reverseRecOn with
  | nil =>
    rw [episodes_snoc,episodes_of_ok hpre]
    show (begin [] f).map Episode.onset = [f]
    rw [begin_of_fail hf]
    rfl
  | append_singleton rest r ih =>
    have hsplit : pre ++ f :: (rest ++ [r]) = pre ++ f :: rest ++ [r] := by simp
    obtain ⟨hearlier,-,hlast⟩ := List.pairwise_append.mp hrest
    have hone := ih hearlier
    rw [hsplit,episodes_snoc]
    rcases add_cases limit (episodes ok limit (pre ++ f :: rest)) r with ⟨-,-,h⟩ | ⟨hr,hout,-⟩ |
      ⟨e,others,hes,-,h⟩
    · rw [h]
      exact hone
    · have hin : inEpisode limit (episodes ok limit (pre ++ f :: rest)) = true := by
        rcases List.eq_nil_or_concat rest with rfl | ⟨front,s,rfl⟩
        · exact inEpisode_of_failure hlimit hf
        · rw [List.concat_eq_append,← List.cons_append,← List.append_assoc]
          exact inEpisode_of_failure hlimit
            (hlast s (by simp [List.concat_eq_append]) r List.mem_cons_self hr)
      rw [hin] at hout
      contradiction
    · rw [h]
      rw [hes] at hone
      exact hone

end Single

end Episodes
