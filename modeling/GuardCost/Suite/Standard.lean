/-
GuardCost/Suite/Standard.lean

The standard suite: six kernels of its own and thirty numerical ones.
Larger applications need files of their own and come in through a document.
-/
import GuardCost.Suite.Registry

namespace GuardCost.Registry

/-- The numerical kernels; each has a stack of 32 KiB. -/
def numericalKernels : List String :=
  ["pb_datamining_correlation", "pb_datamining_covariance", "pb_la_blas_gemm",
    "pb_la_blas_gemver", "pb_la_blas_gesummv", "pb_la_blas_symm",
    "pb_la_blas_syr2k", "pb_la_blas_syrk", "pb_la_blas_trmm",
    "pb_la_kernels_2mm", "pb_la_kernels_3mm", "pb_la_kernels_atax",
    "pb_la_kernels_bicg", "pb_la_kernels_doitgen", "pb_la_kernels_mvt",
    "pb_la_solvers_cholesky", "pb_la_solvers_durbin", "pb_la_solvers_gramschmidt",
    "pb_la_solvers_lu", "pb_la_solvers_ludcmp", "pb_la_solvers_trisolv",
    "pb_medely_deriche", "pb_medely_floyd_warshall", "pb_medely_nussinov",
    "pb_stencils_adi", "pb_stencils_fdtd_2d", "pb_stencils_heat_3d",
    "pb_stencils_jacobi_1d", "pb_stencils_jacobi_2d", "pb_stencils_seidel_2d"]

/-- The standard suite. -/
def standard : Registry where
  programs :=
    [{ name := "custom_binarytrees", arguments := ["16"] },
      { name := "custom_function_pointers" },
      { name := "custom_libjpeg",
        stackSize := 32768,
        flags :=
          ["-Wno-incompatible-library-redeclaration", "-Wno-implicit-function-declaration",
            "-Wno-shift-negative-value"] },
      { name := "custom_matrix_multiply" },
      { name := "custom_memcmp" },
      { name := "custom_sqlite",
        stackSize := 32768,
        flags := ["-DSQLITE_MUTEX_NOOP", "-ldl"] }]
      ++ numericalKernels.map fun name => { name, stackSize := 32768 }

end GuardCost.Registry
