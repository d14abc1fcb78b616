import ApiContract.Hooks
/-!
# Hooks without interceptors

Filters decide what is part of a generation, and only interceptors change what is built. Hooks that
hold filters alone leave every schema, property, operation, parameter and request body as it is.
-/

namespace ApiContract
namespace Hooks

variable {h : Hooks}

theorem interceptorCount_eq_zero_iff :
    h.interceptorCount = 0 ↔
      h.schemaInterceptors = [] ∧ h.fieldInterceptors = [] ∧ h.operationInterceptors = [] ∧
        h.parameterInterceptors = [] ∧ h.requestBodyInterceptors = [] := by
  simp [interceptorCount, and_assoc]

theorem interceptSchema_eq (hz : h.interceptorCount = 0) (scope : Scope) (t : TypeDescriptor)
    (s : Schema) : h.interceptSchema scope t s = s := by
  rw [interceptSchema, (interceptorCount_eq_zero_iff.1 hz).1, List.foldl_nil]

theorem interceptField_eq (hz : h.interceptorCount = 0) (scope : Scope) (owner : TypeDescriptor)
    (field : FieldDescriptor) (p : Property) : h.interceptField scope owner field p = p := by
  rw [interceptField, (interceptorCount_eq_zero_iff.1 hz).2.1, List.foldl_nil]

theorem interceptOperation_eq (hz : h.interceptorCount = 0) (handler : TypeDescriptor)
    (m : MethodDescriptor) (o : Operation) : h.interceptOperation handler m o = o := by
  rw [interceptOperation, (interceptorCount_eq_zero_iff.1 hz).2.2.1, List.foldl_nil]

theorem interceptParameter_eq (hz : h.interceptorCount = 0) (m : MethodDescriptor)
    (declared : ParameterDescriptor) (p : Parameter) : h.interceptParameter m declared p = p := by
  rw [interceptParameter, (interceptorCount_eq_zero_iff.1 hz).2.2.2.1, List.foldl_nil]

theorem interceptRequestBody_eq (hz : h.interceptorCount = 0) (m : MethodDescriptor)
    (declared : ParameterDescriptor) (b : RequestBody) :
    h.interceptRequestBody m declared b = b := by
  rw [interceptRequestBody, (interceptorCount_eq_zero_iff.1 hz).2.2.2.2, List.foldl_nil]

end Hooks
end ApiContract
