import DataFetch.Request.Basic
import DataFetch.Value.Equality

/-! # Equality of requests

Requests are equal when all their parts are, bound values being compared as values.
-/
namespace DataFetch

namespace Predicate

mutual
def same : Predicate → Predicate → Bool
  | simple t ps, simple u qs => t == u && Value.sameItems ps qs
  | group op ps, group oq qs => op == oq && sameAll ps qs
  | _, _ => false

def sameAll : List Predicate → List Predicate → Bool
  | [], [] => true
  | p :: ps, q :: qs => p.same q && sameAll ps qs
  | _, _ => false
end

end Predicate

namespace FetchRequest

def same (r s : FetchRequest) : Bool :=
  r.table == s.table && Predicate.sameAll r.predicates s.predicates && r.sort == s.sort &&
    r.limit == s.limit && r.offset == s.offset

end FetchRequest

end DataFetch
