import PmdPytcp.Fib
import PmdPytcp.Ip6.Address
import PmdPytcp.Lib.Store

namespace PmdPytcp.Icmp6

structure Ip6Network where
  address : Ip6Address
  prefixlen : Nat
deriving DecidableEq,Repr

def defaultIp6Network : Ip6Network := ⟨0,0⟩

inductive Icmp6NdRoutePreference where
  | medium
  | high
  | reserved
  | low
deriving DecidableEq,Repr

namespace Icmp6NdRoutePreference

def normalised : Icmp6NdRoutePreference → Icmp6NdRoutePreference
  | .reserved => .medium
  | prf => prf

-- Less is preferred.
def rank : Icmp6NdRoutePreference → Nat
  | .high => 0
  | .medium | .reserved => 1
  | .low => 2

@[simp] theorem rank_normalised (prf : Icmp6NdRoutePreference) : prf.normalised.rank = prf.rank := by
  cases prf <;> rfl

end Icmp6NdRoutePreference

structure Icmp6DefaultRouter where
  address : Ip6Address
  lifetime : Nat
  expiresAt : ℚ
  prf : Icmp6NdRoutePreference := .medium
deriving DecidableEq

-- Of the interface and the stack: what Router Advertisements write of routers.
structure Host where
  now : ℚ
  routers : List Icmp6DefaultRouter
  fib : Fib.RouteTable Ip6Address Ip6Network
deriving DecidableEq

namespace Host

def updateDefaultRouter (h : Host) (address : Ip6Address) (routerLifetime : Nat) (prf : Icmp6NdRoutePreference) : Host :=
  if 0 < routerLifetime then
    { h with
      routers := h.routers.filter (fun r => r.address ≠ address) ++
        [{ address := address
           lifetime := routerLifetime
           expiresAt := h.now + routerLifetime
           prf := prf.normalised }]
      fib := h.fib.replaceDefault defaultIp6Network address .ra }
  else if h.routers.any (fun r => r.address = address) then
    { h with
      routers := h.routers.filter fun r => r.address ≠ address
      fib := h.fib.removeDefault defaultIp6Network }
  else h

-- Entries past their deadline leave the list when it is read.
def activeRouters (h : Host) : List Icmp6DefaultRouter := h.routers.filter fun r => h.now < r.expiresAt

-- The list as given to readers is sorted by preference; entries of one
-- preference stay in their order.
def sortedRouters (h : Host) : List Icmp6DefaultRouter :=
  h.activeRouters.mergeSort fun a b => a.prf.rank ≤ b.prf.rank

def getDefaultRouters (h : Host) : Host := { h with routers := h.activeRouters }

end Host

inductive RouterEvent where
  -- a Router Advertisement, with icmp6.accept_ra_defrtr as it is then
  | advertised (acceptDefrtr : Bool) (address : Ip6Address) (routerLifetime : Nat) (prf : Icmp6NdRoutePreference)
  | passed (elapsed : ℚ≥0)
  | read

def Host.next : RouterEvent → Host → Host
  | .advertised acceptDefrtr address routerLifetime prf,h =>
    if acceptDefrtr then h.updateDefaultRouter address routerLifetime prf else h
  | .passed elapsed,h => { h with now := h.now + elapsed }
  | .read,h => h.getDefaultRouters

-- Until when a router last offered itself, and how it ranked itself.
structure Offer where
  ends : ℚ
  rank : Nat
deriving DecidableEq

structure Told where
  host : Host
  offers : Store Ip6Address Offer

namespace Told

def tell : RouterEvent → ℚ → Store Ip6Address Offer → Store Ip6Address Offer
  | .advertised true address routerLifetime prf,now,offers =>
    if 0 < routerLifetime then offers.set address ⟨now + routerLifetime,prf.rank⟩ else offers.erase address
  | _,_,offers => offers

def next (event : RouterEvent) (w : Told) : Told := ⟨w.host.next event,tell event w.host.now w.offers⟩

-- Nobody has spoken; the operator's and the boot configuration's routes may be there.
def Start (w : Told) : Prop :=
  w.host.routers = [] ∧ w.offers = .empty ∧
    ∀ route ∈ w.host.fib.routes,¬(route.destination = defaultIp6Network ∧ route.protocol = .ra)

def Standing (w : Told) (address : Ip6Address) (offer : Offer) : Prop :=
  w.offers.get address = some offer ∧ w.host.now < offer.ends

def RaDefault (w : Told) (route : Fib.Route Ip6Address Ip6Network) : Prop :=
  route ∈ w.host.fib.routes ∧ route.destination = defaultIp6Network ∧ route.protocol = .ra

-- The route goes to a standing router that no standing router outranks.
def Best (w : Told) (route : Fib.Route Ip6Address Ip6Network) : Prop :=
  ∃ address offer,route.gateway = some address ∧ w.Standing address offer ∧
    ∀ other offer',w.Standing other offer' → offer.rank ≤ offer'.rank

structure FollowsOffers (w : Told) : Prop where
  installed : (∃ address offer,w.Standing address offer) → ∃ route,w.RaDefault route
  best : (∃ address offer,w.Standing address offer) → ∀ route,w.RaDefault route → w.Best route
  cleared : (¬∃ address offer,w.Standing address offer) → ¬∃ route,w.RaDefault route

-- No better router stands when one speaks up, no other stands when a listed one
-- withdraws, and the router behind the route does not run out in silence.
def Heeds : RouterEvent → Told → Prop
  | .advertised true address routerLifetime prf,w =>
    if 0 < routerLifetime then
      ∀ other offer,other ≠ address → w.Standing other offer → prf.rank ≤ offer.rank
    else
      (∃ r ∈ w.host.routers,r.address = address) → ∀ other offer,other ≠ address → ¬w.Standing other offer
  | .advertised false _ _ _,_ => True
  | .passed elapsed,w => ∀ route,w.RaDefault route → ∀ address offer,route.gateway = some address →
      w.offers.get address = some offer → w.host.now + elapsed < offer.ends
  | .read,_ => True

def Listed (w : Told) : Prop :=
  ∀ address offer,w.Standing address offer → ∃ r ∈ w.host.routers,r.address = address ∧ r.expiresAt = offer.ends

structure Kept (w : Told) : Prop where
  listed : w.Listed
  follows : w.FollowsOffers

theorem start_kept (first : Start w) : Kept w := by
  obtain ⟨-,silent,routes⟩ := first
  have nobody : ∀ address offer,¬w.Standing address offer := by
    intro address offer standing
    have told := Store.get_eq_some.mp standing.1
    rw [silent] at told
    exact absurd told List.not_mem_nil
  refine ⟨fun address offer standing => absurd standing (nobody address offer),?_,?_,?_⟩
  · intro some
    obtain ⟨address,offer,standing⟩ := some
    exact absurd standing (nobody address offer)
  · intro some
    obtain ⟨address,offer,standing⟩ := some
    exact absurd standing (nobody address offer)
  · intro _ found
    obtain ⟨route,member,default⟩ := found
    exact routes route member default

theorem Kept.fewer (kept : Kept w) (fib : w'.host.fib = w.host.fib) (listed : w'.Listed)
    (fewer : ∀ address offer,w'.Standing address offer → w.Standing address offer)
    (routed : ∀ route,w.RaDefault route → ∀ address offer,route.gateway = some address →
      w.Standing address offer → w'.Standing address offer) : Kept w' := by
  have sameRoutes : ∀ route,w'.RaDefault route ↔ w.RaDefault route := by
    intro route
    unfold RaDefault
    rw [fib]
  refine ⟨listed,?_,?_,?_⟩
  · intro some
    obtain ⟨address,offer,standing⟩ := some
    obtain ⟨route,default⟩ := kept.follows.installed ⟨address,offer,fewer address offer standing⟩
    exact ⟨route,(sameRoutes route).mpr default⟩
  · intro some route default
    obtain ⟨address,offer,standing⟩ := some
    have default' := (sameRoutes route).mp default
    obtain ⟨hop,offer',gateway,stands,best⟩ :=
      kept.follows.best ⟨address,offer,fewer address offer standing⟩ route default'
    exact ⟨hop,offer',gateway,routed route default' hop offer' gateway stands,
      fun other o standing => best other o (fewer other o standing)⟩
  · intro nobody found
    obtain ⟨route,default⟩ := found
    have default' := (sameRoutes route).mp default
    by_cases before : ∃ address offer,w.Standing address offer
    · obtain ⟨hop,offer,gateway,stands,-⟩ := kept.follows.best before route default'
      exact nobody ⟨hop,offer,routed route default' hop offer gateway stands⟩
    · exact kept.follows.cleared before ⟨route,default'⟩

section Offered
variable {w : Told} {address : Ip6Address} {routerLifetime : Nat} {prf : Icmp6NdRoutePreference}

theorem next_offered (positive : 0 < routerLifetime) :
    (w.next (.advertised true address routerLifetime prf)) =
      ⟨{ w.host with
          routers := w.host.routers.filter (fun r => r.address ≠ address) ++
            [⟨address,routerLifetime,w.host.now + routerLifetime,prf.normalised⟩]
          fib := w.host.fib.replaceDefault defaultIp6Network address .ra },
        w.offers.set address ⟨w.host.now + routerLifetime,prf.rank⟩⟩ := by
  simp [next,tell,Host.next,Host.updateDefaultRouter,positive]

theorem standing_offered (positive : 0 < routerLifetime) {other : Ip6Address} {offer : Offer} :
    (w.next (.advertised true address routerLifetime prf)).Standing other offer ↔
      (other = address ∧ offer = ⟨w.host.now + routerLifetime,prf.rank⟩) ∨
        (other ≠ address ∧ w.Standing other offer) := by
  rw [next_offered positive]
  unfold Standing
  by_cases same : other = address
  · subst same
    simp only [Store.get_set_self,Option.some.injEq,true_and,ne_eq,not_true_eq_false,false_and,or_false]
    constructor
    · rintro ⟨rfl,-⟩
      rfl
    · rintro rfl
      exact ⟨rfl,by simpa using positive⟩
  · simp [Store.get_set_other,same]

theorem raDefault_offered (positive : 0 < routerLifetime) {route : Fib.Route Ip6Address Ip6Network} :
    (w.next (.advertised true address routerLifetime prf)).RaDefault route ↔
      route = { destination := defaultIp6Network, gateway := some address, protocol := .ra } := by
  rw [next_offered positive]
  unfold RaDefault
  rw [Fib.RouteTable.mem_replaceDefault]
  constructor
  · rintro ⟨⟨-,other⟩ | rfl,default,-⟩
    · exact absurd default other
    · rfl
  · rintro rfl
    exact ⟨.inr rfl,rfl,rfl⟩

theorem offered_kept (positive : 0 < routerLifetime) (kept : Kept w)
    (heeds : Heeds (.advertised true address routerLifetime prf) w) :
    Kept (w.next (.advertised true address routerLifetime prf)) := by
  rw [Heeds,if_pos positive] at heeds
  have stands : (w.next (.advertised true address routerLifetime prf)).Standing address
      ⟨w.host.now + routerLifetime,prf.rank⟩ := (standing_offered positive).mpr (.inl ⟨rfl,rfl⟩)
  refine ⟨?_,?_,?_,?_⟩
  · intro other offer standing
    rw [next_offered positive]
    rcases (standing_offered positive).mp standing with ⟨rfl,rfl⟩ | ⟨differs,standing⟩
    · exact ⟨_,List.mem_append_right _ (List.mem_singleton_self _),rfl,rfl⟩
    · obtain ⟨r,member,rfl,ends⟩ := kept.listed other offer standing
      exact ⟨r,List.mem_append_left _ (by simpa using ⟨member,differs⟩),rfl,ends⟩
  · intro _
    exact ⟨_,(raDefault_offered positive).mpr rfl⟩
  · intro _ route default
    obtain rfl := (raDefault_offered positive).mp default
    refine ⟨address,_,rfl,stands,?_⟩
    intro other offer' standing
    rcases (standing_offered positive).mp standing with ⟨-,rfl⟩ | ⟨differs,standing⟩
    · exact le_rfl
    · exact heeds other offer' differs standing
  · intro nobody
    exact absurd ⟨_,_,stands⟩ nobody

end Offered

section Withdrawn
variable {w : Told} {address : Ip6Address} {prf : Icmp6NdRoutePreference}

theorem standing_withdrawn {other : Ip6Address} {offer : Offer} :
    (w.next (.advertised true address 0 prf)).Standing other offer ↔ other ≠ address ∧ w.Standing other offer := by
  have clock : (w.next (.advertised true address 0 prf)).host.now = w.host.now := by
    unfold next Host.next Host.updateDefaultRouter
    simp only [if_true,lt_irrefl,if_false]
    split <;> rfl
  unfold Standing
  rw [clock]
  by_cases same : other = address
  · subst same
    simp [next,tell,Store.get_erase_self]
  · simp [next,tell,Store.get_erase_other,same]

theorem withdrawn_kept (kept : Kept w) (heeds : Heeds (.advertised true address 0 prf) w) :
    Kept (w.next (.advertised true address 0 prf)) := by
  rw [Heeds,if_neg (lt_irrefl 0)] at heeds
  by_cases listed : ∃ r ∈ w.host.routers,r.address = address
  · -- the last standing router is gone, and the default route with it
    have nobody : ∀ other offer,¬(w.next (.advertised true address 0 prf)).Standing other offer := by
      intro other offer standing
      obtain ⟨differs,standing⟩ := standing_withdrawn.mp standing
      exact heeds listed other offer differs standing
    have known : w.host.routers.any (fun r => r.address = address) = true := by simpa using listed
    refine ⟨fun other offer standing => absurd standing (nobody other offer),?_,?_,?_⟩
    · intro some
      obtain ⟨other,offer,standing⟩ := some
      exact absurd standing (nobody other offer)
    · intro some
      obtain ⟨other,offer,standing⟩ := some
      exact absurd standing (nobody other offer)
    · intro _ found
      obtain ⟨route,member,default,-⟩ := found
      simp only [next,Host.next,Host.updateDefaultRouter,if_true,lt_irrefl,if_false,known] at member
      exact (Fib.RouteTable.mem_removeDefault.mp member).2 default
  · -- a router nobody lists had no standing offer to lose
    have host : (w.next (.advertised true address 0 prf)).host = w.host := by
      have unknown : w.host.routers.any (fun r => r.address = address) = false := by simpa using listed
      simp [next,Host.next,Host.updateDefaultRouter,unknown]
    have same : ∀ other offer,(w.next (.advertised true address 0 prf)).Standing other offer ↔ w.Standing other offer := by
      intro other offer
      rw [standing_withdrawn]
      constructor
      · intro both
        exact both.2
      · intro standing
        refine ⟨?_,standing⟩
        rintro rfl
        obtain ⟨r,member,equal,-⟩ := kept.listed other offer standing
        exact listed ⟨r,member,equal⟩
    refine kept.fewer (by rw [host]) ?_ (fun other offer => (same other offer).mp) ?_
    · intro other offer standing
      rw [host]
      exact kept.listed other offer ((same other offer).mp standing)
    · intro _ _ other offer _ standing
      exact (same other offer).mpr standing

end Withdrawn

theorem passed_kept {w : Told} {elapsed : ℚ≥0} (kept : Kept w) (heeds : Heeds (.passed elapsed) w) :
    Kept (w.next (.passed elapsed)) := by
  have earlier : ∀ address offer,(w.next (.passed elapsed)).Standing address offer → w.Standing address offer := by
    intro address offer standing
    refine ⟨standing.1,lt_of_le_of_lt ?_ standing.2⟩
    exact le_add_of_nonneg_right elapsed.cast_nonneg
  refine kept.fewer rfl ?_ earlier ?_
  · intro address offer standing
    exact kept.listed address offer (earlier address offer standing)
  · intro route default address offer gateway standing
    exact ⟨standing.1,heeds route default address offer gateway standing.1⟩

theorem read_kept {w : Told} (kept : Kept w) : Kept (w.next .read) := by
  refine kept.fewer rfl ?_ (fun _ _ standing => standing) (fun _ _ _ _ _ standing => standing)
  intro address offer standing
  obtain ⟨r,member,same,ends⟩ := kept.listed address offer standing
  have active : w.host.now < r.expiresAt := ends ▸ standing.2
  exact ⟨r,List.mem_filter.mpr ⟨member,by simpa using active⟩,same,ends⟩

theorem next_kept {w : Told} (event : RouterEvent) (kept : Kept w) (heeds : Heeds event w) : Kept (w.next event) := by
  cases event with
  | advertised acceptDefrtr address routerLifetime prf =>
    cases acceptDefrtr with
    | false => exact kept
    | true =>
      rcases Nat.eq_zero_or_pos routerLifetime with rfl | positive
      · exact withdrawn_kept kept heeds
      · exact offered_kept positive kept heeds
  | passed elapsed => exact passed_kept kept heeds
  | read => exact read_kept kept

theorem default_route_follows_offers (reached : Runs.Reached Start next Heeds w) : w.FollowsOffers :=
  (reached.invariant Kept (fun _ => start_kept) fun _ event kept heeds => next_kept event kept heeds).follows

def quiet : Told := ⟨⟨0,[],{}⟩,.empty⟩

theorem quiet_start : Start quiet := ⟨rfl,rfl,by simp [quiet]⟩

-- fe80::1 offers itself and, a minute later, a router that ranks itself higher does.
def takenOver : List RouterEvent :=
  [.advertised true 0xfe800000000000000000000000000001 1800 .medium,.passed 60,
    .advertised true 0xfe800000000000000000000000000002 600 .high]

theorem takenOver_heeded : Runs.Met next Heeds takenOver quiet := by
  refine ⟨?_,?_,?_,trivial⟩
  · rintro other offer - ⟨told,-⟩
    exact absurd (Store.get_eq_some.mp told) List.not_mem_nil
  · rintro route default address offer - told
    obtain ⟨rfl,rfl⟩ : address = 0xfe800000000000000000000000000001 ∧ offer = ⟨1800,1⟩ := by
      simpa [Store.get_eq_some,next,tell,quiet,Store.set,Store.empty,Dict.set,
        Icmp6NdRoutePreference.rank] using told
    norm_num [next,Host.next,Host.updateDefaultRouter,quiet]
  · rintro other offer - -
    exact Nat.zero_le _

theorem default_route_follows_offers_takenOver :
    (Runs.run next quiet takenOver).host.fib.routes =
        [{ destination := defaultIp6Network, gateway := some 0xfe800000000000000000000000000002, protocol := .ra }] ∧
      (Runs.run next quiet takenOver).FollowsOffers := by
  refine ⟨by decide +kernel,default_route_follows_offers ?_⟩
  exact (Runs.Reached.start quiet quiet_start).run takenOver takenOver_heeded

-- A router that ranks itself low speaks after one that ranks itself high.
def outranked : List RouterEvent :=
  [.advertised true 0xfe800000000000000000000000000001 1800 .high,
    .advertised true 0xfe800000000000000000000000000002 1800 .low]

theorem last_speaker_takes_route : ¬∀ w,Runs.Reached Start next (fun _ _ => True) w → w.FollowsOffers := by
  intro follows
  have ended := follows _ ((Runs.Reached.start quiet quiet_start).run outranked (Runs.met_true _))
  have high : (Runs.run next quiet outranked).Standing 0xfe800000000000000000000000000001 ⟨1800,0⟩ := by
    unfold Standing
    decide +kernel
  have low : (Runs.run next quiet outranked).RaDefault
      { destination := defaultIp6Network, gateway := some 0xfe800000000000000000000000000002, protocol := .ra } := by
    unfold RaDefault
    decide +kernel
  obtain ⟨address,offer,gateway,standing,best⟩ := ended.best ⟨_,_,high⟩ _ low
  obtain rfl := Option.some.inj gateway
  have told : (Runs.run next quiet outranked).offers.get 0xfe800000000000000000000000000002 = some ⟨1800,2⟩ := by
    decide +kernel
  obtain rfl := Option.some.inj (told.symm.trans standing.1)
  exact absurd (best _ _ high) (by decide)

end Told

end PmdPytcp.Icmp6
