import VibeLink.Automation.Service
import VibeLink.Relational.Outcome

/-! When an automation is due next (`daemon/automation/schedule.rs`). -/

namespace VibeLink.Automation

open Relational
open Coordinator (trim isWhiteSpace)

/-- The instants of a local time, in milliseconds since the epoch. -/
inductive LocalResult
  | none
  | single (instant : Int)
  | ambiguous (first second : Int)

/-- `chrono`, `chrono_tz` and `cron`.  Local times are milliseconds too. -/
structure Chrono where
  Tz : Type
  Cron : Type
  parseTimezone : String → Option Tz
  parseCron : String → Option Cron
  /-- `parse_from_rfc3339` -/
  parseInstant : String → Option Int
  /-- `NaiveDateTime::parse_from_str`, in either format -/
  parseLocal : String → Option Int
  /-- The timestamps of a `DateTime<Utc>`. -/
  inRange : Int → Bool
  localInRange : Int → Bool
  toLocal : Tz → Int → Int
  fromLocal : Tz → Int → LocalResult
  /-- The candidates behind a local time. -/
  after : Cron → Int → List Int

namespace Schedule

def DST_LOOKBACK_HOURS : Int := 48
def MAX_DST_GAP_MINUTES : Nat := 48 * 60

/-- `str::parse::<u64>` and `str::parse::<u32>` -/
def parseUnsigned (bound : Nat) (value : String) : Option Nat :=
  let digits := match value.toList with
    | '+' :: digits => digits
    | digits => digits
  if digits ≠ [] ∧ digits.all Char.isDigit then
    some (digits.foldl (fun n digit => n * 10 + (digit.toNat - '0'.toNat)) 0) |>.filter (· < bound)
  else none

def orBail {α : Type} (value : Option α) (message : String) : Except String α := value.elim (.error message) .ok

variable (C : Chrono)

inductive ScheduleKind
  | once (instantMs : Nat)
  | interval (periodMs anchorMs : Nat)
  | calendar (cron : C.Cron)

structure ParsedSchedule where
  timezone : C.Tz
  kind : ScheduleKind C

def millisToUtc (value : Nat) : Except String Int :=
  if maxInteger < value then .error "timestamp milliseconds exceed i64"
  else if C.inRange value then .ok value
  else .error "timestamp milliseconds are outside chrono's supported range"

def datetimeToMillis (value : Int) : Except String Nat :=
  if 0 ≤ value then .ok value.toNat
  else .error "timestamp is before the Unix epoch or outside u64 milliseconds"

def candidateAfter (candidate : Int) (afterMs : Nat) : Except String (Option Nat) := do
  let candidate ← datetimeToMillis candidate
  return if afterMs < candidate then some candidate else none

def chooseAfter (first second : Int) (afterMs : Nat) : Except String (Option Nat) := do
  let first ← datetimeToMillis first
  let second ← datetimeToMillis second
  return ([first, second].filter fun candidate => afterMs < candidate).min?

/-- The first local time of the next `minutes` that there is. -/
def adjustLocalAfter (timezone : C.Tz) (afterMs : Nat) : Nat → Int → Except String (Option Nat)
  | 0, _ => .error "could not resolve nonexistent local time within 48 hours"
  | minutes + 1, «local» =>
    let adjusted := «local» + 60000
    if C.localInRange adjusted then
      match C.fromLocal timezone adjusted with
      | .single candidate => candidateAfter candidate afterMs
      | .ambiguous first second => chooseAfter first second afterMs
      | .none => adjustLocalAfter timezone afterMs minutes adjusted
    else .error "DST gap adjustment overflowed"

def resolveLocalAfter (timezone : C.Tz) («local» : Int) (afterMs : Nat) : Except String (Option Nat) :=
  match C.fromLocal timezone «local» with
  | .single candidate => candidateAfter candidate afterMs
  | .ambiguous first second => chooseAfter first second afterMs
  | .none => adjustLocalAfter C timezone afterMs MAX_DST_GAP_MINUTES «local»

def nextInterval (anchorMs periodMs afterMs : Nat) : Except String Nat :=
  if afterMs < anchorMs then .ok anchorMs
  else
    let elapsed := afterMs - anchorMs
    let steps := elapsed / periodMs + 1
    let next := anchorMs + periodMs * steps
    if periodMs = 0 ∨ 2 ^ 64 ≤ steps ∨ 2 ^ 64 ≤ periodMs * steps ∨ 2 ^ 64 ≤ next then
      .error "interval occurrence calculation overflowed"
    else do
      let _ ← (millisToUtc C next).mapError fun _ => "interval occurrence is outside the supported timestamp range"
      return next

/-- The loop of `next_calendar`. -/
def earliest (timezone : C.Tz) (localCursor : Int) (afterMs : Nat) :
    Option Nat → List Int → Except String (Option Nat)
  | best, [] => .ok best
  | best, candidate :: candidates => do
    let resolved ← resolveLocalAfter C timezone candidate afterMs
    let best := resolved.elim best fun resolved => some (best.elim resolved fun current => min current resolved)
    if localCursor < candidate ∧ best.isSome then return best
    else earliest timezone localCursor afterMs best candidates

/-- `naive_local`, which panics. -/
def naiveLocal (timezone : C.Tz) (instant : Int) : Except String Int :=
  if C.localInRange (C.toLocal timezone instant) then .ok (C.toLocal timezone instant)
  else .error "Local time out of range for `NaiveDateTime`"

def nextCalendar (cron : C.Cron) (timezone : C.Tz) (afterMs : Nat) : Except String (Option Nat) := do
  let afterUtc ← millisToUtc C afterMs
  let naiveLocal ← naiveLocal C timezone afterUtc
  let localCursor := naiveLocal / 1000 * 1000
  let lookback := localCursor - DST_LOOKBACK_HOURS * 3600000
  let lookback := if C.localInRange lookback then lookback else localCursor
  earliest C timezone localCursor afterMs none (C.after cron lookback)

def nextFromSchedule (schedule : ParsedSchedule C) (afterMs : Nat) : Except String (Option Nat) := do
  let _ ← (millisToUtc C afterMs).mapError fun _ => "invalid schedule cursor"
  match schedule.kind with
  | .once instantMs => return if afterMs < instantMs then some instantMs else none
  | .interval periodMs anchorMs => do
    let next ← nextInterval C anchorMs periodMs afterMs
    return some next
  | .calendar cron => nextCalendar C cron schedule.timezone afterMs

def parseTimezone (value : String) : Except String C.Tz :=
  if trim value = "" then .error "IANA timezone is required"
  else orBail (C.parseTimezone (trim value)) s!"invalid IANA timezone '{trim value}'"

def parseNaiveLocal (value : String) : Except String Int :=
  orBail (C.parseLocal value)
    s!"one-time schedule must be local YYYY-MM-DDTHH:MM, RFC3339, or epoch milliseconds, got '{value}'"

def parseOnce (value : String) (timezone : C.Tz) : Except String Nat := do
  if value.toList.all Char.isDigit then
    let millis ← orBail (parseUnsigned (2 ^ 64) value) s!"invalid epoch-millisecond one-time schedule '{value}'"
    let _ ← (millisToUtc C millis).mapError fun _ => "one-time schedule is outside the supported timestamp range"
    return millis
  else match C.parseInstant value with
  | some instant =>
    (datetimeToMillis instant).mapError fun _ => "one-time schedule is outside the supported timestamp range"
  | none => do
    let «local» ← parseNaiveLocal C value
    let resolved ← resolveLocalAfter C timezone «local» 0
    orBail resolved s!"one-time schedule '{value}' resolves before the Unix epoch"

def parseInterval (value : String) : Except String Nat := do
  let (amount, unitMs) := match value.toList.getLast? with
    | some 's' => (value.toList.dropLast, 1000)
    | some 'm' => (value.toList.dropLast, 60000)
    | some 'h' => (value.toList.dropLast, 3600000)
    | some 'd' => (value.toList.dropLast, 86400000)
    | _ => (value.toList, 1000)
  let amount ← orBail (parseUnsigned (2 ^ 64) (String.ofList amount))
    s!"interval must be a positive duration such as 45s, 15m, or 6h, got '{value}'"
  if amount = 0 then .error s!"interval must be a positive duration, got '{value}'"
  else if 2 ^ 64 ≤ amount * unitMs then .error "interval milliseconds overflowed"
  else return amount * unitMs

def parseMinute (value : String) : Except String Nat := do
  let minute ← orBail (parseUnsigned (2 ^ 32) value) s!"hourly schedule minute must be 0..59, got '{value}'"
  if 59 < minute then .error s!"hourly schedule minute must be 0..59, got {minute}" else return minute

def parseHhMm (value : String) : Except String (Nat × Nat) :=
  match value.toList with
  | [h, h', ':', m, m'] =>
    if [h, h', m, m'].all Char.isDigit then
      let hour := (parseUnsigned 100 (String.ofList [h, h'])).getD 0
      let minute := (parseUnsigned 100 (String.ofList [m, m'])).getD 0
      if 23 < hour ∨ 59 < minute then .error s!"schedule time is out of range, got '{value}'" else .ok (hour, minute)
    else .error s!"schedule time must use HH:MM, got '{value}'"
  | _ => .error s!"schedule time must use HH:MM, got '{value}'"

def parseWeekday (value : String) : Except String String :=
  match value.toLower with
  | "sun" => .ok "SUN"
  | "mon" => .ok "MON"
  | "tue" => .ok "TUE"
  | "wed" => .ok "WED"
  | "thu" => .ok "THU"
  | "fri" => .ok "FRI"
  | "sat" => .ok "SAT"
  | _ => .error s!"weekly weekday must be a three-letter name, got '{value}'"

/-- `split_whitespace` -/
def words (value : String) : List (List Char) := (value.toList.splitOnP isWhiteSpace).filter (· ≠ [])

def parseFiveFieldCron (value : String) : Except String C.Cron :=
  if (words value).length ≠ 5 then .error "cron schedule must contain exactly five fields"
  else orBail (C.parseCron s!"0 {value}") s!"invalid five-field cron schedule '{value}'"

def parseWeekly (value : String) : Except String C.Cron :=
  match value.toList.span (· ≠ '@') with
  | (weekday, _ :: time) =>
    if time.contains '@' then .error "weekly schedule must contain exactly one '@'"
    else do
      let weekday ← parseWeekday (String.ofList weekday)
      let (hour, minute) ← parseHhMm (String.ofList time)
      parseFiveFieldCron C s!"{minute} {hour} * * {weekday}"
  | (_, []) => .error "weekly schedule must use weekday@HH:MM"

def parseKind (kind value : String) (timezone : C.Tz) : Except String (ScheduleKind C) :=
  match kind with
  | "once" => .once <$> parseOnce C value timezone
  | "interval" => (.interval · 0) <$> parseInterval value
  | "hourly" => do
    let minute ← parseMinute value
    .calendar <$> parseFiveFieldCron C s!"{minute} * * * *"
  | "daily" => do
    let (hour, minute) ← parseHhMm value
    .calendar <$> parseFiveFieldCron C s!"{minute} {hour} * * *"
  | "weekdays" => do
    let (hour, minute) ← parseHhMm value
    .calendar <$> parseFiveFieldCron C s!"{minute} {hour} * * MON-FRI"
  | "weekly" => .calendar <$> parseWeekly C value
  | "cron" => .calendar <$> parseFiveFieldCron C value
  | other => .error s!"unsupported schedule kind '{other}'"

def parseSchedule (kind value timezone : String) : Except String (ParsedSchedule C) := do
  let timezone ← parseTimezone C timezone
  if trim value = "" then .error "schedule value is required"
  else do
    let kind ← parseKind C kind (trim value) timezone
    return { timezone, kind }

/-- An interval starts where the automation says, or at its creation. -/
def anchored (record : AutomationRecord) : ScheduleKind C → Except String (ScheduleKind C)
  | .interval periodMs _ => do
    let anchorMs := record.dtstart.getD record.createdAt
    let _ ← (millisToUtc C anchorMs).mapError fun _ => "invalid interval anchor"
    return .interval periodMs anchorMs
  | kind => .ok kind

def parseRecord (record : AutomationRecord) : Except String (ParsedSchedule C) := do
  let parsed ← parseSchedule C record.scheduleKind record.scheduleValue record.timezone
  let kind ← anchored C record parsed.kind
  return { parsed with kind }

def nextAfter (record : AutomationRecord) (afterMs : Nat) : Except String (Option Nat) := do
  let schedule ← parseRecord C record
  nextFromSchedule C schedule afterMs

def validateSchedule (record : AutomationRecord) : Except String Unit := do
  let _ ← parseSchedule C record.scheduleKind record.scheduleValue record.timezone
  match record.dtstart with
  | some dtstart => do
    let _ ← (millisToUtc C dtstart).mapError fun _ => "invalid schedule dtstart"
  | none => return

def planner : Planner where
  nextAfter := nextAfter C
  validateSchedule := validateSchedule C

/-! Whatever the libraries say, the next time is later than the one it is asked for. -/

section Later

variable {C} {afterMs next : Nat}

theorem lt_of_candidateAfter {candidate : Int} (found : candidateAfter candidate afterMs = .ok (some next)) :
    afterMs < next := by
  obtain ⟨instant, _, found⟩ := bind_eq_ok.1 found
  split at found
  · cases found
    assumption
  · cases found

theorem lt_of_chooseAfter {first second : Int} (found : chooseAfter first second afterMs = .ok (some next)) :
    afterMs < next := by
  obtain ⟨first, _, found⟩ := bind_eq_ok.1 found
  obtain ⟨second, _, found⟩ := bind_eq_ok.1 found
  have least := List.min?_mem (Except.ok.inj found)
  exact of_decide_eq_true (List.mem_filter.1 least).2

theorem lt_of_adjustLocalAfter {timezone : C.Tz} {minutes : Nat} {«local» : Int}
    (found : adjustLocalAfter C timezone afterMs minutes «local» = .ok (some next)) : afterMs < next := by
  induction minutes generalizing «local» with
  | zero => cases found
  | succ minutes ih =>
    rw [adjustLocalAfter] at found
    split at found
    · split at found
      · exact lt_of_candidateAfter found
      · exact lt_of_chooseAfter found
      · exact ih found
    · cases found

theorem lt_of_resolveLocalAfter {timezone : C.Tz} {«local» : Int}
    (found : resolveLocalAfter C timezone «local» afterMs = .ok (some next)) : afterMs < next := by
  unfold resolveLocalAfter at found
  split at found
  · exact lt_of_candidateAfter found
  · exact lt_of_chooseAfter found
  · exact lt_of_adjustLocalAfter found

theorem lt_of_nextInterval {anchorMs periodMs : Nat} (found : nextInterval C anchorMs periodMs afterMs = .ok next) :
    afterMs < next := by
  unfold nextInterval at found
  split at found
  · cases found
    assumption
  · rename_i begun
    dsimp only at found
    split at found
    · cases found
    · rename_i fits
      obtain ⟨_, _, found⟩ := bind_eq_ok.1 found
      cases found
      have positive : 0 < periodMs := Nat.pos_of_ne_zero fun zero => fits (.inl zero)
      have behind := Nat.lt_mul_div_succ (afterMs - anchorMs) positive
      omega

theorem lt_of_earliest {timezone : C.Tz} {localCursor : Int} {best : Option Nat} {candidates : List Int}
    (later : ∀ current ∈ best, afterMs < current)
    (found : earliest C timezone localCursor afterMs best candidates = .ok (some next)) : afterMs < next := by
  induction candidates generalizing best with
  | nil =>
    cases found
    exact later next rfl
  | cons candidate candidates ih =>
    obtain ⟨resolved, resolves, found⟩ := bind_eq_ok.1 found
    have better : ∀ current ∈ resolved.elim best fun resolved => some (best.elim resolved fun current =>
        min current resolved), afterMs < current := by
      cases resolved with
      | none => exact later
      | some resolved =>
        have resolved_lt := lt_of_resolveLocalAfter resolves
        cases best with
        | none => simpa using resolved_lt
        | some current => simpa using ⟨later current rfl, resolved_lt⟩
    dsimp only at found
    split at found
    · exact better next (Except.ok.inj found)
    · exact ih better found

theorem lt_of_nextFromSchedule {schedule : ParsedSchedule C}
    (found : nextFromSchedule C schedule afterMs = .ok (some next)) : afterMs < next := by
  obtain ⟨_, _, found⟩ := bind_eq_ok.1 found
  split at found
  · split at found
    · cases found
      assumption
    · cases found
  · obtain ⟨occurrence, found, ⟨⟩⟩ := bind_eq_ok.1 found
    exact lt_of_nextInterval found
  · obtain ⟨_, _, found⟩ := bind_eq_ok.1 found
    obtain ⟨_, _, found⟩ := bind_eq_ok.1 found
    apply lt_of_earliest _ found
    exact fun _ none => (nomatch none)

theorem lt_of_nextAfter {record : AutomationRecord} (found : nextAfter C record afterMs = .ok (some next)) :
    afterMs < next := by
  obtain ⟨schedule, _, found⟩ := bind_eq_ok.1 found
  exact lt_of_nextFromSchedule found

end Later

end Schedule

end VibeLink.Automation
