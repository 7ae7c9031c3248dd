import Scaffold.Template.Reader

/-!
# The built-in templates

The templates that come with the program, line by line: two library headers, the header stub of a
binding module, the five sections of a type test, and the macro file of a dependency. `entries`
gives each with its name in the corpus and a body printed from its segments.
-/

set_option autoImplicit false

namespace Scaffold.Template.Builtin

/-- A text stands for itself as a segment. -/
local instance : Coe String Segment :=
  ⟨.literal⟩

/-- The segments of a text whose lines are given without their line feeds. -/
def lines (rows : List (List Segment)) : List Segment :=
  rows.flatMap (· ++ [.literal "\n"])

/-- The end of the comment that opens a generated source file. -/
def notice : List Segment :=
  lines [
    [" * Refer to AUTHORS for acknowledgements."],
    [" *"],
    [" * This software is free software: you can redistribute it and/or modify"],
    [" * it under the terms of the GNU Lesser General Public License as published by"],
    [" * the Free Software Foundation, either version 3 of the License, or"],
    [" * (at your option) any later version."],
    [" *"],
    [" * This software is distributed in the hope that it will be useful,"],
    [" * but WITHOUT ANY WARRANTY; without even the implied warranty of"],
    [" * MERCHANTABILITY or FITNESS FOR A PARTICULAR PURPOSE.  See the"],
    [" * GNU General Public License for more details."],
    [" *"],
    [" * You should have received a copy of the GNU Lesser General Public License"],
    [" * along with this software.  If not, see <http://www.gnu.org/licenses/>."],
    [" */"]]

/-- The header that defines how the library exports its symbols. -/
def externHeader : List Segment :=
  lines [
    ["/*"],
    [" * The internal extern definition"],
    [" *"],
    [" * Copyright (C) ", .placeholder "copyright", ", ", .placeholder "authors"],
    [" *"]] ++
  notice ++ lines [
    [],
    ["#if !defined( _", .placeholder "library_name_upper_case", "_INTERNAL_EXTERN_H )"],
    ["#define _", .placeholder "library_name_upper_case", "_INTERNAL_EXTERN_H"],
    [],
    ["#include <common.h>"],
    [],
    ["/* Define HAVE_LOCAL_", .placeholder "library_name_upper_case", " for local use of ",
      .placeholder "library_name"],
    [" */"],
    ["#if !defined( HAVE_LOCAL_", .placeholder "library_name_upper_case", " )"],
    [],
    ["#include <", .placeholder "library_name", "/extern.h>"],
    [],
    ["#define ", .placeholder "library_name_upper_case", "_EXTERN_VARIABLE\t",
      .placeholder "library_name_upper_case", "_EXTERN"],
    [],
    ["#else"],
    ["#define ", .placeholder "library_name_upper_case", "_EXTERN\t\t/* extern */"],
    ["#define ", .placeholder "library_name_upper_case", "_EXTERN_VARIABLE\textern"],
    []] ++
  lines [
    ["#endif /* !defined( HAVE_LOCAL_", .placeholder "library_name_upper_case", " ) */"],
    [],
    ["#endif /* !defined( _", .placeholder "library_name_upper_case", "_INTERNAL_EXTERN_H ) */"],
    []]

/-- The header of the support functions of the library. -/
def supportHeader : List Segment :=
  lines [
    ["/*"],
    [" * Support functions"],
    [" *"],
    [" * Copyright (C) ", .placeholder "copyright", ", ", .placeholder "authors"],
    [" *"]] ++
  notice ++ lines [
    [],
    ["#if !defined( _", .placeholder "library_name_upper_case", "_SUPPORT_H )"],
    ["#define _", .placeholder "library_name_upper_case", "_SUPPORT_H"],
    [],
    ["#include <common.h>"],
    ["#include <types.h>"],
    [],
    ["#include \"", .placeholder "library_name", "_extern.h\""],
    ["#include \"", .placeholder "library_name", "_libcerror.h\""],
    [],
    ["#if defined( __cplusplus )"],
    ["extern \"C\" \x7b"],
    ["#endif"],
    [],
    ["#if !defined( HAVE_LOCAL_", .placeholder "library_name_upper_case", " )"],
    [],
    ["/* ", .placeholder "library_description"],
    [" */"],
    [.placeholder "library_name_upper_case", "_EXTERN \\"],
    ["const char *", .placeholder "library_name", "_get_version("],
    ["             void );"],
    []] ++
  lines [
    [.placeholder "library_name_upper_case", "_EXTERN \\"],
    ["int ", .placeholder "library_name", "_get_access_flags_read("],
    ["     void );"],
    [],
    ["#endif /* !defined( HAVE_LOCAL_", .placeholder "library_name_upper_case", " ) */"],
    [],
    ["#if defined( __cplusplus )"],
    ["\x7d"],
    ["#endif"],
    [],
    ["#endif /* !defined( _", .placeholder "library_name_upper_case", "_SUPPORT_H ) */"],
    []]

/-- The header stub of the identifier functions of a binding module. -/
def guidHeader : List Segment :=
  lines [
    ["/*"],
    [" * GUID functions"],
    [" *"],
    [" * Copyright (C) ", .placeholder "python_module_copyright", ", ",
      .placeholder "python_module_authors"],
    [" *"]] ++
  notice ++ lines [
    [],
    ["#if !defined( _", .placeholder "python_module_guid_upper_case", "_H )"],
    ["#define _", .placeholder "python_module_guid_upper_case", "_H"],
    [],
    ["#include <common.h>"],
    ["#include <types.h>"],
    [],
    ["#include \"", .placeholder "python_module_name", "_python.h\""],
    [],
    ["#if defined( __cplusplus )"],
    ["extern \"C\" \x7b"],
    ["#endif"],
    [],
    ["PyObject *", .placeholder "python_module_name", "_string_new_from_guid("],
    ["           const uint8_t *guid_buffer,"],
    ["           size_t guid_buffer_size );"],
    [],
    ["#if defined( __cplusplus )"],
    ["\x7d"],
    ["#endif"],
    [],
    ["#endif /* !defined( _", .placeholder "python_module_guid_upper_case", "_H ) */"],
    []]

/-- The section that opens a type test. -/
def testHeader : List Segment :=
  lines [
    ["/*"],
    [" * Library ", .placeholder "type_name", " type test program"],
    [" *"],
    [" * Copyright (C) ", .placeholder "copyright", ", ", .placeholder "authors"],
    [" *"]] ++
  notice ++ lines [
    [],
    ["#include <common.h>"],
    ["#include <file_stream.h>"],
    ["#include <types.h>"],
    [],
    ["#if defined( HAVE_STDLIB_H ) || defined( WINAPI )"],
    ["#include <stdlib.h>"],
    ["#endif"],
    [],
    ["#include \"", .placeholder "library_name_suffix", "_test_libcerror.h\""],
    ["#include \"", .placeholder "library_name_suffix", "_test_lib",
      .placeholder "library_name_suffix", ".h\""],
    ["#include \"", .placeholder "library_name_suffix", "_test_macros.h\""],
    ["#include \"", .placeholder "library_name_suffix", "_test_memory.h\""],
    ["#include \"", .placeholder "library_name_suffix", "_test_unused.h\""],
    [],
    ["#include \"../lib", .placeholder "library_name_suffix", "/lib",
      .placeholder "library_name_suffix", "_", .placeholder "type_name", ".h\""],
    [],
    ["#if defined( __GNUC__ ) && !defined( LIB", .placeholder "library_name_suffix_upper_case",
      "_DLL_IMPORT )"],
    []] ++
  lines [
    ["/* Frees a ", .placeholder "value_name", " used as ", .placeholder "type_name", " value"],
    [" * Returns 1 if successful or -1 on error"],
    [" */"],
    ["int ", .placeholder "test_prefix", "_", .placeholder "value_name", "_free_function("],
    ["     intptr_t **", .placeholder "value_name", ","],
    ["     libcerror_error_t **error )"],
    ["\x7b"],
    ["\tif( ", .placeholder "value_name", " == NULL )"],
    ["\t\x7b"],
    ["\t\tlibcerror_error_set("],
    ["\t\t error,"],
    ["\t\t LIBCERROR_ERROR_DOMAIN_ARGUMENTS,"],
    ["\t\t LIBCERROR_ARGUMENT_ERROR_INVALID_VALUE,"],
    ["\t\t \"%s: invalid ", .placeholder "value_name", ".\","],
    ["\t\t \"", .placeholder "test_prefix", "_", .placeholder "value_name",
      "_free_function\" );"],
    [],
    ["\t\treturn( -1 );"],
    ["\t\x7d"],
    ["\tif( *", .placeholder "value_name", " != NULL )"],
    ["\t\x7b"],
    ["\t\tfree("],
    ["\t\t *", .placeholder "value_name", " );"],
    []] ++
  lines [
    ["\t\t*", .placeholder "value_name", " = NULL;"],
    ["\t\x7d"],
    ["\treturn( 1 );"],
    ["\x7d"],
    []]

/-- The section that tests initialization. -/
def testInitialize : List Segment :=
  lines [
    ["/* Tests the ", .placeholder "type_prefix", "_initialize function"],
    [" * Returns 1 if successful or 0 if not"],
    [" */"],
    ["int ", .placeholder "test_prefix", "_initialize("],
    ["     void )"],
    ["\x7b"],
    ["\tlibcerror_error_t *error                               = NULL;"],
    ["\tlib", .placeholder "library_name_suffix", "_", .placeholder "type_name", "_t *",
      .placeholder "type_name", " = NULL;"],
    ["\tint result                                             = 0;"],
    [],
    ["\t/* Test ", .placeholder "type_prefix", "_initialize"],
    ["\t */"],
    ["\tresult = ", .placeholder "type_prefix", "_initialize("],
    ["\t          &", .placeholder "type_name", ","],
    ["\t          0,"],
    ["\t          &error );"],
    [],
    ["\t", .placeholder "library_name_suffix_upper_case", "_TEST_ASSERT_EQUAL_INT("],
    ["\t \"result\","],
    ["\t result,"],
    ["\t 1 );"],
    []] ++
  lines [
    ["\t", .placeholder "library_name_suffix_upper_case", "_TEST_ASSERT_IS_NOT_NULL("],
    ["\t \"", .placeholder "type_name", "\","],
    ["\t ", .placeholder "type_name", " );"],
    [],
    ["\t", .placeholder "library_name_suffix_upper_case", "_TEST_ASSERT_IS_NULL("],
    ["\t \"error\","],
    ["\t error );"],
    [],
    ["\tresult = ", .placeholder "type_prefix", "_free("],
    ["\t          &", .placeholder "type_name", ","],
    ["\t          NULL,"],
    ["\t          &error );"],
    [],
    ["\t", .placeholder "library_name_suffix_upper_case", "_TEST_ASSERT_EQUAL_INT("],
    ["\t \"result\","],
    ["\t result,"],
    ["\t 1 );"],
    []] ++
  lines [
    ["\t", .placeholder "library_name_suffix_upper_case", "_TEST_ASSERT_IS_NULL("],
    ["\t \"", .placeholder "type_name", "\","],
    ["\t ", .placeholder "type_name", " );"],
    [],
    ["\t", .placeholder "library_name_suffix_upper_case", "_TEST_ASSERT_IS_NULL("],
    ["\t \"error\","],
    ["\t error );"],
    [],
    ["\t/* Test error cases"],
    ["\t */"],
    ["\tresult = ", .placeholder "type_prefix", "_initialize("],
    ["\t          NULL,"],
    ["\t          0,"],
    ["\t          &error );"],
    [],
    ["\t", .placeholder "library_name_suffix_upper_case", "_TEST_ASSERT_EQUAL_INT("],
    ["\t \"result\","],
    ["\t result,"],
    ["\t -1 );"],
    []] ++
  lines [
    ["\t", .placeholder "library_name_suffix_upper_case", "_TEST_ASSERT_IS_NOT_NULL("],
    ["\t \"error\","],
    ["\t error );"],
    [],
    ["\tlibcerror_error_free("],
    ["\t &error );"],
    [],
    ["\treturn( 1 );"],
    [],
    ["on_error:"],
    ["\tif( error != NULL )"],
    ["\t\x7b"],
    ["\t\tlibcerror_error_free("],
    ["\t\t &error );"],
    ["\t\x7d"],
    ["\tif( ", .placeholder "type_name", " != NULL )"],
    ["\t\x7b"],
    ["\t\t", .placeholder "type_prefix", "_free("],
    ["\t\t &", .placeholder "type_name", ","],
    ["\t\t NULL,"],
    ["\t\t NULL );"],
    ["\t\x7d"],
    ["\treturn( 0 );"],
    ["\x7d"],
    []]

/-- The section that tests the free function. -/
def testFree : List Segment :=
  lines [
    ["/* Tests the ", .placeholder "type_prefix", "_free function"],
    [" * Returns 1 if successful or 0 if not"],
    [" */"],
    ["int ", .placeholder "test_prefix", "_free("],
    ["     void )"],
    ["\x7b"],
    ["\tlibcerror_error_t *error = NULL;"],
    ["\tint result               = 0;"],
    [],
    ["\t/* Test error cases"],
    ["\t */"],
    ["\tresult = ", .placeholder "type_prefix", "_free("],
    ["\t          NULL,"],
    ["\t          NULL,"],
    ["\t          &error );"],
    [],
    ["\t", .placeholder "library_name_suffix_upper_case", "_TEST_ASSERT_EQUAL_INT("],
    ["\t \"result\","],
    ["\t result,"],
    ["\t -1 );"],
    []] ++
  lines [
    ["\t", .placeholder "library_name_suffix_upper_case", "_TEST_ASSERT_IS_NOT_NULL("],
    ["\t \"error\","],
    ["\t error );"],
    [],
    ["\tlibcerror_error_free("],
    ["\t &error );"],
    [],
    ["\treturn( 1 );"],
    [],
    ["on_error:"],
    ["\tif( error != NULL )"],
    ["\t\x7b"],
    ["\t\tlibcerror_error_free("],
    ["\t\t &error );"],
    ["\t\x7d"],
    ["\treturn( 0 );"],
    ["\x7d"],
    []]

/-- The section that tests clearing with a free function. -/
def testClear : List Segment :=
  lines [
    ["/* Tests the lib", .placeholder "library_name_suffix", "_", .placeholder "type_name",
      "_clear function"],
    [" * Returns 1 if successful or 0 if not"],
    [" */"],
    ["int ", .placeholder "library_name_suffix", "_test_", .placeholder "type_name", "_clear("],
    ["     void )"],
    ["\x7b"],
    ["\tlibcerror_error_t *error                               = NULL;"],
    ["\tlib", .placeholder "library_name_suffix", "_", .placeholder "type_name", "_t *",
      .placeholder "type_name", " = NULL;"],
    ["\tint result                                             = 0;"],
    [],
    ["\t/* Initialize test"],
    ["\t */"],
    ["\tresult = lib", .placeholder "library_name_suffix", "_", .placeholder "type_name",
      "_initialize("],
    ["\t          &", .placeholder "type_name", ","],
    ["\t          0,"],
    ["\t          &error );"],
    [],
    ["\t", .placeholder "library_name_suffix_upper_case", "_TEST_ASSERT_EQUAL_INT("],
    ["\t \"result\","],
    ["\t result,"],
    ["\t 1 );"],
    []] ++
  lines [
    ["\t", .placeholder "library_name_suffix_upper_case", "_TEST_ASSERT_IS_NOT_NULL("],
    ["\t \"", .placeholder "type_name", "\","],
    ["\t ", .placeholder "type_name", " );"],
    [],
    ["\t", .placeholder "library_name_suffix_upper_case", "_TEST_ASSERT_IS_NULL("],
    ["\t \"error\","],
    ["\t error );"],
    [],
    ["\t/* Test lib", .placeholder "library_name_suffix", "_", .placeholder "type_name",
      "_clear"],
    ["\t */"],
    ["\tresult = lib", .placeholder "library_name_suffix", "_", .placeholder "type_name",
      "_clear("],
    ["\t          ", .placeholder "type_name", ","],
    ["\t          &", .placeholder "library_name_suffix", "_test_", .placeholder "type_name", "_",
      .placeholder "value_name", "_free_function,"],
    ["\t          &error );"],
    [],
    ["\t", .placeholder "library_name_suffix_upper_case", "_TEST_ASSERT_EQUAL_INT("],
    ["\t \"result\","],
    ["\t result,"],
    ["\t 1 );"],
    []] ++
  lines [
    ["\t", .placeholder "library_name_suffix_upper_case", "_TEST_ASSERT_IS_NULL("],
    ["\t \"error\","],
    ["\t error );"],
    [],
    ["\t/* Test error cases"],
    ["\t */"],
    ["\tresult = lib", .placeholder "library_name_suffix", "_", .placeholder "type_name",
      "_clear("],
    ["\t          NULL,"],
    ["\t          NULL,"],
    ["\t          &error );"],
    [],
    ["\t", .placeholder "library_name_suffix_upper_case", "_TEST_ASSERT_EQUAL_INT("],
    ["\t \"result\","],
    ["\t result,"],
    ["\t -1 );"],
    [],
    ["\t", .placeholder "library_name_suffix_upper_case", "_TEST_ASSERT_IS_NOT_NULL("],
    ["\t \"error\","],
    ["\t error );"],
    []] ++
  lines [
    ["\tlibcerror_error_free("],
    ["\t &error );"],
    [],
    ["\t/* Clean up"],
    ["\t */"],
    ["\tresult = lib", .placeholder "library_name_suffix", "_", .placeholder "type_name",
      "_free("],
    ["\t          &", .placeholder "type_name", ","],
    ["\t          NULL,"],
    ["\t          &error );"],
    [],
    ["\t", .placeholder "library_name_suffix_upper_case", "_TEST_ASSERT_EQUAL_INT("],
    ["\t \"result\","],
    ["\t result,"],
    ["\t 1 );"],
    [],
    ["\t", .placeholder "library_name_suffix_upper_case", "_TEST_ASSERT_IS_NULL("],
    ["\t \"", .placeholder "type_name", "\","],
    ["\t ", .placeholder "type_name", " );"],
    []] ++
  lines [
    ["\t", .placeholder "library_name_suffix_upper_case", "_TEST_ASSERT_IS_NULL("],
    ["\t \"error\","],
    ["\t error );"],
    []] ++
  lines [
    ["\treturn( 1 );"],
    [],
    ["on_error:"],
    ["\tif( error != NULL )"],
    ["\t\x7b"],
    ["\t\tlibcerror_error_free("],
    ["\t\t &error );"],
    ["\t\x7d"],
    ["\tif( ", .placeholder "type_name", " != NULL )"],
    ["\t\x7b"],
    ["\t\tlib", .placeholder "library_name_suffix", "_", .placeholder "type_name", "_free("],
    ["\t\t &", .placeholder "type_name", ","],
    ["\t\t NULL,"],
    ["\t\t NULL );"],
    ["\t\x7d"],
    ["\treturn( 0 );"],
    ["\x7d"],
    []]

/-- The section that runs the tests. -/
def testMain : List Segment :=
  lines [
    ["#endif /* defined( __GNUC__ ) && !defined( LIB",
      .placeholder "library_name_suffix_upper_case", "_DLL_IMPORT ) */"],
    [],
    ["/* The main program"],
    [" */"],
    ["#if defined( HAVE_WIDE_SYSTEM_CHARACTER )"],
    ["int wmain("],
    ["     int argc ", .placeholder "library_name_suffix_upper_case", "_TEST_ATTRIBUTE_UNUSED,"],
    ["     wchar_t * const argv[] ", .placeholder "library_name_suffix_upper_case",
      "_TEST_ATTRIBUTE_UNUSED )"],
    ["#else"],
    ["int main("],
    ["     int argc ", .placeholder "library_name_suffix_upper_case", "_TEST_ATTRIBUTE_UNUSED,"],
    ["     char * const argv[] ", .placeholder "library_name_suffix_upper_case",
      "_TEST_ATTRIBUTE_UNUSED )"],
    ["#endif"],
    ["\x7b"],
    ["\t", .placeholder "library_name_suffix_upper_case", "_TEST_UNREFERENCED_PARAMETER( argc )"],
    ["\t", .placeholder "library_name_suffix_upper_case", "_TEST_UNREFERENCED_PARAMETER( argv )"],
    [],
    ["#if defined( __GNUC__ ) && !defined( LIB", .placeholder "library_name_suffix_upper_case",
      "_DLL_IMPORT )"],
    []] ++
  lines [
    ["\t", .placeholder "library_name_suffix_upper_case", "_TEST_RUN("],
    ["\t \"", .placeholder "type_prefix", "_initialize\","],
    ["\t ", .placeholder "test_prefix", "_initialize );"],
    [],
    ["\t", .placeholder "library_name_suffix_upper_case", "_TEST_RUN("],
    ["\t \"", .placeholder "type_prefix", "_free\","],
    ["\t ", .placeholder "test_prefix", "_free );"],
    [],
    ["\t", .placeholder "library_name_suffix_upper_case", "_TEST_RUN("],
    ["\t \"", .placeholder "type_prefix", "_clear\","],
    ["\t ", .placeholder "test_prefix", "_clear );"],
    [],
    ["#endif /* defined( __GNUC__ ) && !defined( LIB",
      .placeholder "library_name_suffix_upper_case", "_DLL_IMPORT ) */"],
    [],
    ["\treturn( EXIT_SUCCESS );"],
    [],
    ["on_error:"],
    ["\treturn( EXIT_FAILURE );"],
    ["\x7d"],
    []]

/-- The macro file of a dependency. -/
def dependencyMacro : List Segment :=
  lines [
    ["dnl Checks for ", .placeholder "library_id", " required headers and functions"],
    ["dnl"],
    ["dnl Version: ", .placeholder "min_version"],
    [],
    ["dnl Function to detect if ", .placeholder "library_id", " is available"],
    ["dnl ac_libyal_dummy is used to prevent AC_CHECK_LIB adding unnecessary ",
      "-l<library> arguments"],
    ["AC_DEFUN([AX_", .placeholder "library_id_upper_case", "_CHECK_LIB],"],
    ["  [ac_cv_", .placeholder "library_id", "=", .placeholder "ac_cv_value"],
    ["  ac_cv_", .placeholder "library_id", "_resolution=", .placeholder "probe_outcome"],
    [],
    ["  AS_IF("],
    ["    [test \"x$ac_cv_", .placeholder "library_id", "\" != xno],"],
    ["    [AC_DEFINE("],
    ["      [HAVE_", .placeholder "library_id_upper_case", "],"],
    ["      [1],"],
    ["      [Define to 1 if you have the '", .placeholder "dependency_name", "' library (-l",
      .placeholder "dependency_name", ").])"],
    ["    ])"],
    []] ++
  lines [
    ["  AC_SUBST("],
    ["    [HAVE_", .placeholder "library_id_upper_case", "],"],
    ["    [", .placeholder "have_library", "])"],
    ["  ])"],
    [],
    ["dnl Function to detect if ", .placeholder "library_id", " dependencies are available"],
    ["AC_DEFUN([AX_", .placeholder "library_id_upper_case", "_CHECK_LOCAL],"],
    ["  [dnl Headers included in ", .placeholder "library_id", "/", .placeholder "library_id",
      "_extern.h"],
    ["  AC_DEFINE("],
    ["    [HAVE_LOCAL_", .placeholder "library_id_upper_case", "],"],
    ["    [", .placeholder "have_local_library", "],"],
    ["    [Define to 1 if the local version of ", .placeholder "library_id", " is used.])"],
    [],
    ["  AC_SUBST("],
    ["    [HAVE_LOCAL_", .placeholder "library_id_upper_case", "],"],
    ["    [", .placeholder "have_local_library", "])"],
    ["  ])"],
    []] ++
  lines [
    ["dnl Function to check if ", .placeholder "library_id", " should be used"],
    ["AC_DEFUN([AX_", .placeholder "library_id_upper_case", "_CHECK_ENABLE],"],
    ["  [AX_", .placeholder "library_id_upper_case", "_CHECK_LIB"],
    []] ++
  lines [
    ["  AS_IF("],
    ["    [test \"x$ac_cv_", .placeholder "library_id", "\" = xlocal],"],
    ["    [AX_", .placeholder "library_id_upper_case", "_CHECK_LOCAL])"],
    [],
    ["  AC_SUBST("],
    ["    [", .placeholder "library_id_upper_case", "_CPPFLAGS],"],
    ["    [\"", .placeholder "cppflags", "\"])"],
    ["  AC_SUBST("],
    ["    [", .placeholder "library_id_upper_case", "_LIBADD],"],
    ["    [\"", .placeholder "ldflags", "\"])"],
    [],
    ["  AM_CONDITIONAL("],
    ["    [HAVE_LOCAL_", .placeholder "library_id_upper_case", "],"],
    ["    [test \"x$ac_cv_", .placeholder "library_id", "\" = xlocal])"],
    [],
    ["  AS_IF("],
    ["    [test \"x$ac_cv_", .placeholder "library_id", "\" = xyes],"],
    ["    [AC_SUBST("],
    ["      [ax_", .placeholder "library_id", "_pc_libs_private],"],
    ["      [", .placeholder "pc_libs_private", "])"],
    ["    ])"],
    []] ++
  lines [
    ["  AS_IF("],
    ["    [test \"x$ac_cv_", .placeholder "library_id", "\" = xyes],"],
    ["    [AC_SUBST("],
    ["      [ax_", .placeholder "library_id", "_spec_requires],"],
    ["      [", .placeholder "spec_requires", "])"],
    ["    AC_SUBST("],
    ["      [ax_", .placeholder "library_id", "_spec_build_requires],"],
    ["      [", .placeholder "spec_build_requires", "])"],
    ["    ])"],
    ["  ])"],
    []]

/-- Names of the built-in templates, with bodies that are printed from their segments. The printed
bodies are read back as these segments, but other bodies are read alike: the printed macro file
doubles the dollars of `x$ac_cv_`, where a single dollar reads as one too. -/
def entries : List (String × String) :=
  [("libyal/libyal_extern.h", Segment.print externHeader),
    ("libyal/libyal_support.h", Segment.print supportHeader),
    ("pyyal/pyyal_guid.h", Segment.print guidHeader),
    ("yal_test_type/header.c", Segment.print testHeader),
    ("yal_test_type/initialize.c", Segment.print testInitialize),
    ("yal_test_type/free.c", Segment.print testFree),
    ("yal_test_type/clear_with_free_function.c", Segment.print testClear),
    ("yal_test_type/main.c", Segment.print testMain),
    ("m4/libyal_dependency.m4", Segment.print dependencyMacro)]

end Scaffold.Template.Builtin
