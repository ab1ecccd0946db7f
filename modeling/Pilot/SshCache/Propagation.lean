import Mathlib.Data.List.Induction
import Pilot.Library.Transition
import Pilot.SshCache.Actions

/-!
Runs of the journal by any number of operators. A settle repeats an answer
some prepare gave, an acknowledgement names work items that were read from the
journal at any earlier time, and a ghost map holds the keys last acknowledged
for a user on a host.
-/
namespace Pilot.SshCache
open Fold Transition List

variable {Epoch : Type}

structure Issue (Epoch : Type) where
  (before after : Dict String (Entry Epoch))
  prepared : Dict String (Prepared Epoch)

structure World (Epoch : Type) where
  stored : Option (Journal Epoch)
  draws : Nat
  issued : List (Issue Epoch)
  items : List (WorkItem Epoch)
  verified : String → String → Option (List String)

structure Call (Epoch : Type) where
  now : Int
  domain : String
  action : Action Epoch

def usersOf (stored : Option (Journal Epoch)) : Dict String (Entry Epoch) :=
  stored.elim Dict.empty Journal.users

def World.users (w : World Epoch) : Dict String (Entry Epoch) := usersOf w.stored

def World.retired (w : World Epoch) : Dict String Receipt :=
  w.stored.elim Dict.empty Journal.retired

def World.pending (w : World Epoch) (name : String) : List String := pendingOf (w.users.get? name)

def World.empty : World Epoch := ⟨none,0,[],[],fun _ _ => none⟩

def record (verified : String → String → Option (List String)) (item : WorkItem Epoch) :
    String → String → Option (List String) :=
  fun user host => if user = item.user ∧ host = item.host then some item.keys else verified user host

def World.Admits (w : World Epoch) : Action Epoch → Prop
  | .settle prepared _ => ∃ issue ∈ w.issued, issue.prepared = prepared
  | .ack items => ∀ item ∈ items, item ∈ w.items
  | _ => True

/-- What the operators know after an action that left `stored` and answered `result`. -/
def World.learn (w : World Epoch) (action : Action Epoch) (stored : Option (Journal Epoch))
    (draws : Nat) (result : Result Epoch) : World Epoch where
  stored := stored
  draws := draws
  issued := match result with
    | .prepared prepared => w.issued ++ [⟨w.users,usersOf stored,prepared⟩]
    | _ => w.issued
  items := w.items ++ workOf (usersOf stored)
  verified := match action with
    | .ack items => items.foldl record w.verified
    | _ => w.verified

section
variable [DecidableEq Epoch]

def Step (env : Env Epoch) (w : World Epoch) (call : Call Epoch) (w' : World Epoch) : Prop :=
  w.Admits call.action ∧ ∃ stored draws result,
    journal env call.now call.domain w.stored w.draws call.action = .ok (stored,draws,result) ∧
      w' = w.learn call.action stored draws result

end

def Action.editsUsers : Action Epoch → Bool
  | prepare .. | settle .. | ack .. | retire .. => true
  | inspect | retirementStatus .. | plan _ | authPrepare | authSettle .. | authAck => false

/-- Everything an action can do to the users, the receipts and what is known. -/
inductive Effect (env : Env Epoch) (w : World Epoch) : Action Epoch → World Epoch → Prop where
  | quiet {action : Action Epoch} {w' : World Epoch} (idle : action.editsUsers = false)
      (users : w'.users = w.users)
      (retired : w'.retired = w.retired) (draws : w'.draws = w.draws)
      (issued : w'.issued = w.issued) (verified : w'.verified = w.verified) : Effect env w action w'
  | prepare {hosts : List String} {users : List UserKeys} {w' : World Epoch} {s : Preparing Epoch}
      (made : PreparedFrom env (sortedSet hosts) w.users w.draws s)
      (active : ∀ h ∈ sortedSet hosts, w.retired.has h = false)
      (same : w'.users = s.users) (retired : w'.retired = w.retired) (draws : w'.draws = s.draws)
      (issued : w'.issued = w.issued ++ [⟨w.users,s.users,s.prepared⟩])
      (verified : w'.verified = w.verified) : Effect env w (.prepare hosts users) w'
  | settle {changed : List String} {w' : World Epoch} {issue : Issue Epoch} (mem : issue ∈ w.issued)
      (users : ∀ name, (issue.prepared.get? name = none ∧ w'.users.get? name = w.users.get? name) ∨
        ∃ p entry, issue.prepared.get? name = some p ∧ w.users.get? name = some entry ∧
          entry.epoch = p.epoch ∧ w'.users.get? name =
            some (if name ∈ changed then entry else { entry with pending := p.required }))
      (retired : w'.retired = w.retired) (draws : w'.draws = w.draws)
      (issued : w'.issued = w.issued) (verified : w'.verified = w.verified) :
      Effect env w (.settle issue.prepared changed) w'
  | ack {items : List (WorkItem Epoch)} {w' : World Epoch} (read : ∀ item ∈ items, item ∈ w.items)
      (users : ∀ name,
        (w.users.get? name = none ∧ w'.users.get? name = none ∧ ∀ item ∈ items, item.user ≠ name) ∨
        ∃ entry pending, w.users.get? name = some entry ∧
          w'.users.get? name = some { entry with pending := pending } ∧
          (∀ item ∈ items, item.user = name → item.epoch = entry.epoch) ∧
          ∀ h, h ∈ pending ↔
            h ∈ entry.pending ∧ ∀ item ∈ items, item.user = name → item.host ≠ h)
      (retired : w'.retired = w.retired) (draws : w'.draws = w.draws)
      (issued : w'.issued = w.issued) (verified : w'.verified = items.foldl record w.verified) :
      Effect env w (.ack items) w'
  | retire {stage : String} {items : List Retirement} {w' : World Epoch} {s : Retiring Epoch}
      (made : RetiredFrom env w.users w.retired w.draws items s) (users : w'.users = s.users)
      (retired : w'.retired = s.retired) (draws : w'.draws = s.draws)
      (issued : w'.issued = w.issued) (verified : w'.verified = w.verified) :
      Effect env w (.retire stage items) w'

theorem users_getD (stored : Option (Journal Epoch)) (domain : String) :
    (stored.getD (newJournal domain)).users = usersOf stored := by
  cases stored <;> rfl

theorem retired_getD (w : World Epoch) (domain : String) :
    (w.stored.getD (newJournal domain)).retired = w.retired := by
  unfold World.retired
  cases w.stored <;> rfl

section
variable [DecidableEq Epoch] {env : Env Epoch} {w w' : World Epoch} {call : Call Epoch}

theorem step_effect (step : Step env w call w') :
    Effect env w call.action w' ∧ w'.items = w.items ++ workOf w'.users := by
  obtain ⟨admits,stored,draws,result,ok,rfl⟩ := step
  refine ⟨?_,rfl⟩
  obtain ⟨⟨state,drawn,answer⟩,ok,written⟩ := bind_ok ok
  cases written
  unfold update at ok
  obtain ⟨-,ok⟩ := guard_ok ok
  obtain ⟨now,domain,action⟩ := call
  have users := users_getD w.stored domain
  have retired := retired_getD w domain
  cases action with
  | inspect | retirementStatus =>
    cases ok
    exact .quiet rfl rfl rfl rfl rfl rfl
  | plan data =>
    obtain ⟨planned,done,ok⟩ := bind_ok ok
    cases ok
    obtain ⟨_,-,done⟩ := bind_ok done
    cases done
    exact .quiet rfl rfl rfl rfl rfl rfl
  | retire stage items =>
    obtain ⟨s,done,ok⟩ := bind_ok ok
    cases ok
    have made := retire_spec done
    rw [users,retired] at made
    exact .retire made rfl rfl rfl rfl rfl
  | authPrepare | authSettle | authAck =>
    cases ok
    exact .quiet rfl users retired rfl rfl rfl
  | prepare hosts items =>
    obtain ⟨s,done,ok⟩ := bind_ok ok
    cases ok
    obtain ⟨made,active⟩ := prepare_spec done
    rw [users] at made
    rw [retired] at active
    exact .prepare made active rfl retired rfl rfl rfl
  | settle prepared changed =>
    obtain ⟨after,done,ok⟩ := bind_ok ok
    cases ok
    obtain ⟨issue,mem,rfl⟩ := admits
    rw [users] at done
    exact .settle mem (settle_spec done) retired rfl rfl rfl
  | ack items =>
    obtain ⟨after,done,ok⟩ := bind_ok ok
    cases ok
    rw [users] at done
    exact .ack admits (ack_spec done) retired rfl rfl rfl

end

/-- How an entry can come about: it is new under a new epoch, or it is an old
    one whose pending hosts shrank or were settled. -/
structure Evolves (env : Env Epoch) (w w' : World Epoch) : Prop where
  draws : w.draws ≤ w'.draws
  entries : ∀ name new, w'.users.get? name = some new →
    (∃ n, w.draws ≤ n ∧ n < w'.draws ∧ new.epoch = env.uuid n) ∨
    ∃ old, w.users.get? name = some old ∧ new.epoch = old.epoch ∧ new.keys = old.keys ∧
      new.hosts = old.hosts ∧
      ((∀ h ∈ new.pending, h ∈ old.pending) ∨ ∃ issue ∈ w.issued, ∃ p,
        issue.prepared.get? name = some p ∧ p.epoch = old.epoch ∧ new.pending = p.required)
  retired : ∀ h, w'.retired.has h = false → w.retired.has h = false
  verified : ∀ name h, w'.verified name h = w.verified name h ∨
    ∃ item ∈ w.items, item.user = name ∧ w'.verified name h = some item.keys ∧
      ∀ entry, w.users.get? name = some entry → item.epoch = entry.epoch

theorem record_all (verified : String → String → Option (List String))
    (items : List (WorkItem Epoch)) (name h : String) :
    (items.foldl record verified name h = verified name h ∧
        ∀ item ∈ items, item.user = name → item.host ≠ h) ∨
      ∃ item ∈ items, item.user = name ∧ item.host = h ∧
        items.foldl record verified name h = some item.keys := by
  induction items using reverseRecOn with
  | nil => exact .inl ⟨rfl,by simp⟩
  | append_singleton items item ih =>
    rw [foldl_append,foldl_cons,foldl_nil]
    simp only [record]
    by_cases here : name = item.user ∧ h = item.host
    · exact .inr ⟨item,by simp,here.1.symm,here.2.symm,if_pos here⟩
    rw [if_neg here]
    rcases ih with ⟨same,none⟩ | ⟨other,mem,user,host,same⟩
    · refine .inl ⟨same,?_⟩
      rw [forall_mem_append,forall_mem_singleton]
      exact ⟨none,fun user host => here ⟨user.symm,host.symm⟩⟩
    · exact .inr ⟨other,by simp [mem],user,host,same⟩

section
variable {env : Env Epoch} {w w' : World Epoch} {action : Action Epoch}

theorem effect_evolves (effect : Effect env w action w') : Evolves env w w' := by
  have same {name : String} {new : Entry Epoch} (found : w.users.get? name = some new) :
      ∃ old, w.users.get? name = some old ∧ new.epoch = old.epoch ∧ new.keys = old.keys ∧
        new.hosts = old.hosts ∧
        ((∀ h ∈ new.pending, h ∈ old.pending) ∨ ∃ issue ∈ w.issued, ∃ p,
          issue.prepared.get? name = some p ∧ p.epoch = old.epoch ∧ new.pending = p.required) :=
    ⟨new,found,rfl,rfl,rfl,.inl fun _ mem => mem⟩
  constructor
  · cases effect with
    | prepare made _ _ _ draws | retire made _ _ draws =>
      rw [draws]
      exact made.later
    | quiet _ _ _ draws | settle _ _ _ draws | ack _ _ _ draws => exact draws.ge
  · intro name new found
    cases effect with
    | quiet _ users =>
      rw [users] at found
      exact .inr (same found)
    | @prepare _ _ _ s made _ users _ draws =>
      rw [users] at found
      cases listed : s.prepared.get? name with
      | none =>
        rw [made.kept name listed] at found
        exact .inr (same found)
      | some p =>
        obtain ⟨keys,entry,-⟩ := made.made name p listed
        obtain ⟨n,first,last,epoch⟩ := made.drawn name p listed
        cases found.symm.trans entry
        exact .inl ⟨n,first,by omega,epoch⟩
    | @settle changed _ issue mem users =>
      rcases users name with ⟨-,kept⟩ | ⟨p,entry,listed,old,epoch,now⟩
      · rw [kept] at found
        exact .inr (same found)
      rw [now] at found
      cases found
      refine .inr ⟨entry,old,?_⟩
      split
      · exact ⟨rfl,rfl,rfl,.inl fun _ mem => mem⟩
      · exact ⟨rfl,rfl,rfl,.inr ⟨issue,mem,p,listed,epoch.symm,rfl⟩⟩
    | ack _ users =>
      rcases users name with ⟨-,none,-⟩ | ⟨entry,pending,old,now,epochs,left⟩
      · cases none.symm.trans found
      · cases now.symm.trans found
        exact .inr ⟨entry,old,rfl,rfl,rfl,.inl fun h mem => ((left h).mp mem).1⟩
    | retire made users _ draws =>
      rw [users] at found
      rcases made.entries name with ⟨-,none⟩ | ⟨old,new',before,now,keys,hosts,fewer,-,epoch⟩
      · cases none.symm.trans found
      cases now.symm.trans found
      rcases epoch with rfl | ⟨n,first,last,epoch⟩
      · exact .inr (same before)
      · exact .inl ⟨n,first,by omega,epoch⟩
  · intro h
    cases effect with
    | quiet _ _ retired | prepare _ _ _ retired | settle _ _ retired | ack _ _ retired =>
      rw [retired]
      exact id
    | retire made _ retired =>
      rw [retired,Dict.has_false,Dict.has_false]
      intro none
      rw [Option.eq_none_iff_forall_ne_some] at none ⊢
      intro receipt found
      exact none receipt (made.kept h receipt found)
  · intro name h
    cases effect with
    | quiet _ _ _ _ _ verified | prepare _ _ _ _ _ _ verified | settle _ _ _ _ _ verified
    | retire _ _ _ _ _ verified => exact .inl (by rw [verified])
    | ack read users _ _ _ verified =>
      rw [verified]
      rcases record_all w.verified _ name h with ⟨kept,-⟩ | ⟨item,mem,user,host,now⟩
      · exact .inl kept
      refine .inr ⟨item,read item mem,user,now,?_⟩
      intro entry found
      rcases users name with ⟨none,-,-⟩ | ⟨entry',pending,old,-,epochs,-⟩
      · cases none.symm.trans found
      · cases old.symm.trans found
        exact epochs item mem user

end

/-- Epochs never repeat: whatever holds an epoch holds one that was drawn, and
    one epoch stands for one set of keys and one prepared answer. -/
structure Epochs (env : Env Epoch) (w : World Epoch) : Prop where
  entry : ∀ name entry, w.users.get? name = some entry → ∃ n < w.draws, entry.epoch = env.uuid n
  item : ∀ item ∈ w.items, ∃ n < w.draws, item.epoch = env.uuid n
  issue : ∀ issue ∈ w.issued, ∀ name p, issue.prepared.get? name = some p →
    ∃ n < w.draws, p.epoch = env.uuid n
  keys : ∀ item ∈ w.items, ∀ entry, w.users.get? item.user = some entry →
    item.epoch = entry.epoch → item.keys = entry.keys
  answer : ∀ i ∈ w.issued, ∀ j ∈ w.issued, ∀ a b p q, i.prepared.get? a = some p →
    j.prepared.get? b = some q → p.epoch = q.epoch → p = q

/-- What an answered prepare still says: its required hosts lie between what
    was pending before and after it, and while its epoch is current the hosts
    it does not require have the keys. -/
structure Answers (w : World Epoch) : Prop where
  lower : ∀ i ∈ w.issued, ∀ name p, i.prepared.get? name = some p →
    ∀ h ∈ pendingOf (i.before.get? name), h ∈ p.required
  upper : ∀ i ∈ w.issued, ∀ name p, i.prepared.get? name = some p →
    ∀ h ∈ p.required, h ∈ pendingOf (i.after.get? name)
  current : ∀ i ∈ w.issued, ∀ name p entry, i.prepared.get? name = some p →
    w.users.get? name = some entry → entry.epoch = p.epoch →
    ∀ h ∈ entry.pending, h ∈ pendingOf (i.after.get? name)
  skipped : ∀ i ∈ w.issued, ∀ name p entry, i.prepared.get? name = some p →
    w.users.get? name = some entry → entry.epoch = p.epoch →
    ∀ h ∈ entry.hosts, w.retired.has h = false → h ∉ p.required →
    w.verified name h = some entry.keys

def Propagated (w : World Epoch) : Prop :=
  ∀ name entry h, w.users.get? name = some entry → h ∈ entry.hosts → w.retired.has h = false →
    h ∉ entry.pending → w.verified name h = some entry.keys

section
variable {env : Env Epoch} {w w' : World Epoch} {action : Action Epoch}

theorem drawn_ne (fresh : Function.Injective env.uuid) (old : ∃ m < draws, epoch = env.uuid m)
    (first : draws ≤ n) (new : other = env.uuid n) : epoch ≠ other := by
  obtain ⟨m,less,rfl⟩ := old
  rw [new]
  intro same
  have := fresh same
  omega

theorem issued_cases (effect : Effect env w action w') : w'.issued = w.issued ∨ ∃ hosts s,
    PreparedFrom env hosts w.users w.draws s ∧ (∀ h ∈ hosts, w.retired.has h = false) ∧
      w'.users = s.users ∧ w'.retired = w.retired ∧ w'.draws = s.draws ∧
      w'.verified = w.verified ∧ w'.issued = w.issued ++ [⟨w.users,s.users,s.prepared⟩] := by
  cases effect with
  | prepare made active users retired draws issued verified =>
    exact .inr ⟨_,_,made,active,users,retired,draws,verified,issued⟩
  | quiet _ _ _ _ issued | settle _ _ _ _ issued | ack _ _ _ _ issued | retire _ _ _ _ issued => exact .inl issued

theorem epochs_step (fresh : Function.Injective env.uuid) (epochs : Epochs env w)
    (effect : Effect env w action w') (items : w'.items = w.items ++ workOf w'.users) :
    Epochs env w' := by
  have evolves := effect_evolves effect
  have wider {epoch : Epoch} (drawn : ∃ n < w.draws, epoch = env.uuid n) :
      ∃ n < w'.draws, epoch = env.uuid n := by
    obtain ⟨n,less,same⟩ := drawn
    exact ⟨n,less.trans_le evolves.draws,same⟩
  have entry : ∀ name entry, w'.users.get? name = some entry →
      ∃ n < w'.draws, entry.epoch = env.uuid n := by
    intro name new found
    rcases evolves.entries name new found with ⟨n,-,less,epoch⟩ | ⟨old,before,epoch,-⟩
    · exact ⟨n,less,epoch⟩
    · rw [epoch]
      exact wider (epochs.entry name old before)
  refine ⟨entry,?_,?_,?_,?_⟩
  · intro item mem
    rw [items] at mem
    rcases mem_append.mp mem with old | new
    · exact wider (epochs.item item old)
    · obtain ⟨e,found,-,epoch,-⟩ := mem_workOf.mp new
      rw [epoch]
      exact entry _ e found
  · intro issue mem name p listed
    rcases issued_cases effect with same | ⟨hosts,s,made,-,-,-,draws,-,issued⟩
    · rw [same] at mem
      exact wider (epochs.issue issue mem name p listed)
    rw [issued] at mem
    rcases mem_append.mp mem with old | new
    · exact wider (epochs.issue issue old name p listed)
    · cases mem_singleton.mp new
      obtain ⟨n,-,less,epoch⟩ := made.drawn name p listed
      exact ⟨n,by omega,epoch⟩
  · intro item mem new found same
    rw [items] at mem
    rcases mem_append.mp mem with old | current
    · rcases evolves.entries _ new found with ⟨n,first,-,epoch⟩ | ⟨e,before,epoch,keys,-⟩
      · exact absurd same (drawn_ne fresh (epochs.item item old) first epoch)
      · rw [keys]
        exact epochs.keys item old e before (same.trans epoch)
    · obtain ⟨e,found',-,-,keys⟩ := mem_workOf.mp current
      cases found'.symm.trans found
      exact keys
  · intro i memI j memJ a b p q foundI foundJ same
    rcases issued_cases effect with kept | ⟨hosts,s,made,-,-,-,-,-,issued⟩
    · rw [kept] at memI memJ
      exact epochs.answer i memI j memJ a b p q foundI foundJ same
    rw [issued] at memI memJ
    rcases mem_append.mp memI with oldI | newI
    · rcases mem_append.mp memJ with oldJ | newJ
      · exact epochs.answer i oldI j oldJ a b p q foundI foundJ same
      · cases mem_singleton.mp newJ
        obtain ⟨n,first,-,epoch⟩ := made.drawn b q foundJ
        exact absurd same (drawn_ne fresh (epochs.issue i oldI a p foundI) first epoch)
    · cases mem_singleton.mp newI
      rcases mem_append.mp memJ with oldJ | newJ
      · obtain ⟨n,first,-,epoch⟩ := made.drawn a p foundI
        exact absurd same.symm (drawn_ne fresh (epochs.issue j oldJ b q foundJ) first epoch)
      · cases mem_singleton.mp newJ
        cases made.distinct fresh a b p q foundI foundJ same
        exact Option.some.inj (foundI.symm.trans foundJ)

theorem verified_step (epochs : Epochs env w) (evolves : Evolves env w w')
    (found : w.users.get? name = some entry) (before : w.verified name h = some entry.keys) :
    w'.verified name h = some entry.keys := by
  rcases evolves.verified name h with same | ⟨item,mem,user,now,epoch⟩
  · rw [same,before]
  · subst user
    rw [now,epochs.keys item mem entry found (epoch entry found)]

theorem answers_step (fresh : Function.Injective env.uuid) (epochs : Epochs env w)
    (answers : Answers w) (done : Propagated w) (effect : Effect env w action w') : Answers w' := by
  have evolves := effect_evolves effect
  have currentOld : ∀ i ∈ w.issued, ∀ name p entry, i.prepared.get? name = some p →
      w'.users.get? name = some entry → entry.epoch = p.epoch →
      ∀ h ∈ entry.pending, h ∈ pendingOf (i.after.get? name) := by
    intro i mem name p new listed found same h pending
    rcases evolves.entries name new found with ⟨n,first,-,epoch⟩ |
        ⟨old,before,epoch,-,-,fewer | ⟨j,memJ,q,listedJ,epochJ,settled⟩⟩
    · exact absurd same.symm (drawn_ne fresh (epochs.issue i mem name p listed) first epoch)
    · exact answers.current i mem name p old listed before (epoch.symm.trans same) h (fewer h pending)
    -- the answer that was settled has the epoch of this one, so it is this one
    cases epochs.answer j memJ i mem name name q p listedJ listed
      (epochJ.trans (epoch.symm.trans same))
    rw [settled] at pending
    exact answers.upper i mem name _ listed h pending
  have skippedOld : ∀ i ∈ w.issued, ∀ name p entry, i.prepared.get? name = some p →
      w'.users.get? name = some entry → entry.epoch = p.epoch →
      ∀ h ∈ entry.hosts, w'.retired.has h = false → h ∉ p.required →
      w'.verified name h = some entry.keys := by
    intro i mem name p new listed found same h host active skipped
    rcases evolves.entries name new found with ⟨n,first,-,epoch⟩ |
        ⟨old,before,epoch,keys,hosts,-⟩
    · exact absurd same.symm (drawn_ne fresh (epochs.issue i mem name p listed) first epoch)
    rw [keys]
    rw [hosts] at host
    refine verified_step epochs evolves before ?_
    exact answers.skipped i mem name p old listed before (epoch.symm.trans same) h host
      (evolves.retired h active) skipped
  rcases issued_cases effect with same | ⟨hosts,s,made,active,users,retired,-,verified,issued⟩
  · refine ⟨?_,?_,?_,?_⟩ <;> rw [same]
    · exact answers.lower
    · exact answers.upper
    · exact currentOld
    · exact skippedOld
  have split {P : Issue Epoch → Prop} (old : ∀ i ∈ w.issued, P i)
      (new : P ⟨w.users,s.users,s.prepared⟩) : ∀ i ∈ w'.issued, P i := by
    rw [issued]
    rw [forall_mem_append,forall_mem_singleton]
    exact ⟨old,new⟩
  refine ⟨split answers.lower ?_,split answers.upper ?_,split currentOld ?_,split skippedOld ?_⟩
  · intro name p listed h pending
    obtain ⟨keys,-,required⟩ := made.made name p listed
    rw [required]
    exact (required_spec hosts keys _).1 h pending
  · intro name p listed h mem
    obtain ⟨keys,entry,required⟩ := made.made name p listed
    rw [required] at mem
    simpa [entry,pendingOf] using (required_spec hosts keys _).2.1 h mem
  · intro name p entry listed found same h pending
    rw [users] at found
    simpa [found,pendingOf] using pending
  intro name p entry listed found same h host unretired skipped
  obtain ⟨keys,made',required⟩ := made.made name p listed
  rw [users] at found
  cases found.symm.trans made'
  rw [required] at skipped
  obtain ⟨old,before,keys',host',idle⟩ := (required_spec hosts keys _).2.2 h host skipped
  rw [verified]
  exact keys' ▸ done name old h before host' (active h host) idle

theorem propagated_step (epochs : Epochs env w) (answers : Answers w) (done : Propagated w)
    (effect : Effect env w action w') : Propagated w' := by
  have evolves := effect_evolves effect
  intro name new h found host active idle
  cases effect with
  | quiet _ users retired _ _ verified =>
    rw [users] at found
    rw [retired] at active
    rw [verified]
    exact done name new h found host active idle
  | @prepare hosts items _ s made unretired users retired _ _ verified =>
    rw [users] at found
    rw [retired] at active
    rw [verified]
    cases listed : s.prepared.get? name with
    | none =>
      rw [made.kept name listed] at found
      exact done name new h found host active idle
    | some p =>
      -- a prepared entry has all its hosts pending
      obtain ⟨keys,entry,-⟩ := made.made name p listed
      cases found.symm.trans entry
      exact absurd (mem_sortedSet.mpr (mem_append_left _ host)) idle
  | @settle changed _ issue mem users retired _ _ verified =>
    rw [retired] at active
    rw [verified]
    rcases users name with ⟨-,kept⟩ | ⟨p,entry,listed,old,epoch,now⟩
    · rw [kept] at found
      exact done name new h found host active idle
    rw [now] at found
    cases found
    split at idle
    · rw [if_pos (by assumption)] at host ⊢
      exact done name entry h old host active idle
    · rw [if_neg (by assumption)] at host ⊢
      exact answers.skipped issue mem name p entry listed old epoch h host active idle
  | ack read users retired _ _ verified =>
    rw [retired] at active
    rcases users name with ⟨-,none,-⟩ | ⟨entry,pending,old,now,epochsOf,left⟩
    · cases none.symm.trans found
    cases now.symm.trans found
    by_cases before : h ∈ entry.pending
    · -- the host left the list, so one of the items names it
      rw [verified]
      rcases record_all w.verified _ name h with ⟨-,none⟩ | ⟨item,mem,user,-,now⟩
      · exact absurd ((left h).mpr ⟨before,none⟩) idle
      · subst user
        rw [now,epochs.keys item (read item mem) entry old (epochsOf item mem rfl)]
    · change w'.verified name h = some entry.keys
      exact verified_step epochs evolves old (done name entry h old host active before)
  | retire made users retired _ _ verified =>
    rw [users] at found
    rw [verified]
    rcases made.entries name with ⟨-,none⟩ | ⟨old,new',before,now,keys,hosts,-,gone,-⟩
    · cases none.symm.trans found
    cases now.symm.trans found
    rw [keys]
    rw [hosts] at host
    refine done name old h before host (evolves.retired h active) ?_
    intro pending
    obtain ⟨recorded,-⟩ := gone h pending idle
    rw [retired,recorded] at active
    cases active

end

section
variable {env : Env Epoch} {w w' : World Epoch} {calls : List (Call Epoch)}

structure Kept (env : Env Epoch) (w : World Epoch) : Prop where
  epochs : Epochs env w
  answers : Answers w
  propagated : Propagated w

theorem kept_run [DecidableEq Epoch] (fresh : Function.Injective env.uuid) (run : Run (Step env) World.empty calls w) :
    Kept env w := by
  refine run_invariant (Kept env) ?_ run ⟨⟨nofun,nofun,nofun,nofun,nofun⟩,⟨nofun,nofun,nofun,nofun⟩,nofun⟩
  intro w call w' kept step
  obtain ⟨effect,items⟩ := step_effect step
  exact ⟨epochs_step fresh kept.epochs effect items,
    answers_step fresh kept.epochs kept.answers kept.propagated effect,
    propagated_step kept.epochs kept.answers kept.propagated effect⟩

/-- The three ways a host leaves the pending list of a user: it is acknowledged
    under the current epoch, it is retired, or the very prepare that put it
    there is settled. -/
inductive Leaves (w w' : World Epoch) (name h : String) : Action Epoch → Prop where
  | acknowledged {items : List (WorkItem Epoch)} {item : WorkItem Epoch} {entry : Entry Epoch}
      (mem : item ∈ items) (user : item.user = name) (host : item.host = h)
      (found : w.users.get? name = some entry) (current : item.epoch = entry.epoch) :
      Leaves w w' name h (.ack items)
  | retired {stage : String} {items : List Retirement} {item : Retirement} (mem : item ∈ items)
      (host : item.hostAlias = h) (recorded : w'.retired.has h = true) :
      Leaves w w' name h (.retire stage items)
  | settled {issue : Issue Epoch} {changed : List String} (mem : issue ∈ w.issued)
      (absent : h ∉ pendingOf (issue.before.get? name))
      (added : h ∈ pendingOf (issue.after.get? name)) :
      Leaves w w' name h (.settle issue.prepared changed)

theorem leaves_of_effect (answers : Answers w) (effect : Effect env w action w')
    (pending : h ∈ w.pending name) (left : h ∉ w'.pending name) : Leaves w w' name h action := by
  unfold World.pending at pending left
  cases effect with
  | quiet _ users =>
    rw [users] at left
    exact absurd pending left
  | @prepare hosts items _ s made active users =>
    rw [users] at left
    cases listed : s.prepared.get? name with
    | none =>
      rw [made.kept name listed] at left
      exact absurd pending left
    | some p =>
      obtain ⟨keys,entry,-⟩ := made.made name p listed
      rw [entry] at left
      exact absurd (mem_sortedSet.mpr (mem_append_right _ pending)) left
  | @settle changed _ issue mem users =>
    rcases users name with ⟨-,kept⟩ | ⟨p,entry,listed,old,epoch,now⟩
    · rw [kept] at left
      exact absurd pending left
    rw [old] at pending
    rw [now] at left
    by_cases same : name ∈ changed
    · rw [if_pos same] at left
      exact absurd pending left
    · rw [if_neg same] at left
      exact .settled mem (fun earlier => left (answers.lower issue mem name p listed h earlier))
        (answers.current issue mem name p entry listed old epoch h pending)
  | @ack items _ read users =>
    rcases users name with ⟨none,-⟩ | ⟨entry,rest,old,now,epochs,kept⟩
    · rw [none] at pending
      cases pending
    rw [old] at pending
    rw [now] at left
    have named : ¬ ∀ item ∈ items, item.user = name → item.host ≠ h :=
      fun others => left ((kept h).mpr ⟨pending,others⟩)
    push Not at named
    obtain ⟨item,mem,user,host⟩ := named
    exact .acknowledged mem user host old (epochs item mem user)
  | retire made users retired =>
    rw [users] at left
    rcases made.entries name with ⟨none,-⟩ | ⟨old,new,before,now,-,-,-,gone,-⟩
    · rw [none] at pending
      cases pending
    rw [before] at pending
    rw [now] at left
    obtain ⟨recorded,item,mem,host⟩ := gone h pending left
    exact .retired mem host (by rw [retired,recorded])

/-- No propagation work is lost: in every reachable state the hosts that are
    neither retired nor pending have the current keys, and a host leaves the
    pending list only for one of the three reasons. -/
theorem no_propagation_lost [DecidableEq Epoch] (env : Env Epoch) (fresh : Function.Injective env.uuid)
    (run : Run (Step env) World.empty calls w) :
    Propagated w ∧ ∀ call w', Step env w call w' → ∀ name h, h ∈ w.pending name →
      h ∉ w'.pending name → Leaves w w' name h call.action := by
  have kept := kept_run fresh run
  refine ⟨kept.propagated,?_⟩
  intro call w' step name h pending left
  exact leaves_of_effect kept.answers (step_effect step).1 pending left

theorem ack_work [DecidableEq Epoch] (env : Env Epoch) (users : Dict String (Entry Epoch)) :
    ∃ left, ack env users (workOf users) = .ok left := by
  refine foldlM_total (I := fun s => ∀ name,
    (s.get? name).map Entry.epoch = (users.get? name).map Entry.epoch) (fun _ => rfl) ?_
  intro s item mem kept
  obtain ⟨entry,found,-,epoch,-⟩ := mem_workOf.mp mem
  have known : (s.get? item.user).map Entry.epoch = some entry.epoch := by
    rw [kept,found]
    rfl
  obtain ⟨now,here,same⟩ := Option.map_eq_some_iff.mp known
  refine ⟨s.set item.user { now with pending := now.pending.filter (· ≠ item.host) },?_,?_⟩
  · rw [ackItem,here]
    exact if_neg (not_not.mpr (same.trans epoch.symm))
  intro name
  rw [Dict.get?_set]
  split
  · rename_i is
    rw [is,← kept,here]
    rfl
  · exact kept name

/-- The listed work can always be acknowledged at once, and nothing is pending then: every host
    that is not retired has the current keys. -/
theorem journal_drains [DecidableEq Epoch] (fresh : Function.Injective env.uuid)
    (run : Run (Step env) World.empty calls w) (now : Int) :
    ∃ domain w', Step env w ⟨now,domain,.ack (workOf w.users)⟩ w' ∧
      (∀ name, w'.pending name = []) ∧ Propagated w' := by
  obtain ⟨left,acked⟩ := ack_work env w.users
  have listed : ∀ item ∈ workOf w.users, item ∈ w.items := by
    cases run with
    | start => exact fun _ => id
    | next _ taken =>
      rw [(step_effect taken).2]
      exact fun _ => mem_append_right _
  obtain ⟨domain,same⟩ : ∃ domain, (w.stored.getD (newJournal domain)).domain = domain := by
    cases w.stored with
    | none => exact ⟨"",rfl⟩
    | some j => exact ⟨j.domain,rfl⟩
  have step : Step env w ⟨now,domain,.ack (workOf w.users)⟩ (w.learn (.ack (workOf w.users))
      (some { w.stored.getD (newJournal domain) with users := left }) w.draws
      (.pending ((workOf left).map fun p => (p.host,p.user)))) := by
    rw [World.users] at acked
    exact ⟨listed,_,_,_,by simp [journal,update,same,users_getD,World.users,acked,Action.readOnly],rfl⟩
  refine ⟨domain,_,step,fun name => ?_,(kept_run fresh (run.next step)).propagated⟩
  rcases ack_spec acked name with ⟨-,gone,-⟩ | ⟨entry,pending,found,new,-,still⟩
  · exact congrArg pendingOf gone
  · refine (congrArg pendingOf new).trans (eq_nil_iff_forall_not_mem.mpr fun h mem => ?_)
    obtain ⟨was,unnamed⟩ := (still h).mp mem
    exact unnamed ⟨name,h,entry.epoch,entry.keys⟩ (mem_workOf.mpr ⟨entry,found,was,rfl,rfl⟩) rfl rfl

end

def sampleEnv : Env Nat where
  uuid := id
  b64decode blob :=
    if blob = "AAAAC3NzaC1lZDI1NTE5" then
      .ok [0,0,0,11,115,115,104,45,101,100,50,53,53,49,57]
    else .error "Incorrect padding"
  lower := id
  repr name := "'" ++ name ++ "'"

def sampleKey : String := "ssh-ed25519 AAAAC3NzaC1lZDI1NTE5"

def samplePrepare : Call Nat := ⟨0,"ipa.test",.prepare ["web"] [⟨"alice",[sampleKey ++ " laptop"]⟩]⟩
def sampleAck : Call Nat := ⟨0,"ipa.test",.ack [⟨"alice","web",0,[sampleKey]⟩]⟩

def sampleJournal (pending : List String) (retired : Dict String Receipt) : Journal Nat :=
  ⟨"ipa.test",⟨[("alice",⟨[sampleKey],0,["web"],pending⟩)],by simp⟩,retired,none⟩

def samplePrepared : Dict String (Prepared Nat) := ⟨[("alice",⟨0,["web"]⟩)],by simp⟩

def sampleAsked : World Nat :=
  World.empty.learn samplePrepare.action (some (sampleJournal ["web"] Dict.empty)) 1
    (.prepared samplePrepared)

def sampleDone : World Nat :=
  sampleAsked.learn sampleAck.action (some (sampleJournal [] Dict.empty)) 1 (.pending [])

theorem sample_run : Run (Step sampleEnv) World.empty [samplePrepare,sampleAck] sampleDone := by
  have asked : Step sampleEnv World.empty samplePrepare sampleAsked :=
    ⟨trivial,_,_,_,by decide +kernel,rfl⟩
  have read : ∀ item ∈ [(⟨"alice","web",0,[sampleKey]⟩ : WorkItem Nat)], item ∈ sampleAsked.items := by
    decide +kernel
  have done : Step sampleEnv sampleAsked sampleAck sampleDone :=
    ⟨read,_,_,_,by decide +kernel,rfl⟩
  exact .next (.next (.start _) asked) done

theorem acknowledged_host_has_keys :
    Run (Step sampleEnv) World.empty [samplePrepare,sampleAck] sampleDone ∧
      sampleDone.pending "alice" = [] ∧ sampleDone.verified "alice" "web" = some [sampleKey] :=
  ⟨sample_run,by decide +kernel,(no_propagation_lost sampleEnv (fun _ _ same => same) sample_run).1
    "alice" ⟨[sampleKey],0,["web"],[]⟩ "web" (by decide +kernel) (by simp) (by decide +kernel) (by simp)⟩

theorem asked_host_is_drained :
    ∃ domain w', Step sampleEnv sampleAsked ⟨0,domain,.ack (workOf sampleAsked.users)⟩ w' ∧
      (∀ name, w'.pending name = []) ∧ Propagated w' :=
  journal_drains (fun _ _ same => same)
    (.next (.start _) (⟨trivial,_,_,_,rfl,rfl⟩ : Step _ _ samplePrepare _)) 0

end Pilot.SshCache
